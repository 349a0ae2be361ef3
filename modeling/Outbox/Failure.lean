import Outbox.Error

/-!
# Failed deliveries and what follows from them

A delivery fails for a while or for good. A failure for a while is worth another try until the
limit of retries is reached; a failure for good is not, and the mutation becomes a dead letter.
-/
namespace Outbox

/-- Why the remote side did not take a mutation. -/
inductive Failure where
  /-- No answer, or an answer that asks for patience. -/
  | transient (reason : String)
  /-- The remote side refuses the mutation as it is. -/
  | permanent (status : Option Nat) (reason : String)
  deriving DecidableEq

namespace Failure

/-- Server errors, time-outs and throttling pass; every other status is a refusal. -/
def isPassing (status : Nat) : Bool := 500 ≤ status || status == 408 || status == 429

/-- The failure of an HTTP status that is no success. -/
def ofStatus (status : Nat) (reason : String) : Failure :=
  if isPassing status then .transient ("HTTP " ++ toString status ++ ": " ++ reason)
  else .permanent (some status) reason

/-- The failure that an error amounts to. A mutation that cannot even be written down would not
fare better the next time. -/
def ofError : Error → Failure
  | .http status reason => ofStatus status reason
  | .serialization fault => .permanent none fault.message
  | .invalidArgument reason => .permanent none reason
  | .unknownKind name => .permanent none name
  | e => .transient e.message

def isRetryable : Failure → Bool
  | .transient _ => true
  | .permanent _ _ => false

def status? : Failure → Option Nat
  | .transient _ => none
  | .permanent status _ => status

def reason : Failure → String
  | .transient reason => reason
  | .permanent _ reason => reason

/-- The text that is kept with the mutation. -/
def message : Failure → String
  | .transient reason => "transient: " ++ reason
  | .permanent (some status) reason => "permanent [" ++ toString status ++ "]: " ++ reason
  | .permanent none reason => "permanent: " ++ reason

end Failure

/-- What happens to a mutation after a failure. -/
inductive Decision where
  /-- It stays queued and is tried again in the next pass. -/
  | retry
  /-- It has reached the limit; it stays queued and is marked. -/
  | exhausted
  /-- It leaves the queue and becomes a dead letter. -/
  | deadLetter
  deriving DecidableEq, Repr

/-- How often a mutation may fail before it is marked. -/
structure RetryPolicy where
  maxRetries : Nat
  deriving DecidableEq, Repr

namespace RetryPolicy

def default : RetryPolicy := ⟨3⟩

/-- Decides with the number of failures, this one included. -/
def decide (p : RetryPolicy) (retries : Nat) (failure : Failure) : Decision :=
  -- A refusal is final however few failures there were.
  if !failure.isRetryable then .deadLetter
  else if p.maxRetries ≤ retries then .exhausted
  else .retry

end RetryPolicy

end Outbox
