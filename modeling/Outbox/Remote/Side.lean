import Outbox.Engine.Basic
import Outbox.Remote.Http

/-!
# Remote sides

A remote side answers one call after another. Over HTTP every call is a request of its own; a
scripted side gives the answers that it was told to give, and afterwards confirms all that it is
sent.
-/
namespace Outbox

namespace Remote

/-- An answer, and whether it is held back until it is released. -/
structure Turn where
  isGated : Bool
  answer : Answer

end Remote

inductive Remote where
  | scripted (script : List Remote.Turn)
  | http (endpoint : Endpoint) (token : Except Error (Option String))
      (exchange : Remote.Request → Remote.Reply)

namespace Remote

/-- The answer of a verdict. -/
def answerOf : Except Failure Unit → Answer
  | .ok () => .confirmed
  | .error failure => .failed failure

/-- Calls the remote side with a mutation; the call may leave lines in the log. -/
def call (r : Remote) (m : Mutation) : Remote × Turn × List LogLine :=
  match r with
  | .scripted [] => (r, ⟨false, .confirmed⟩, [])
  | .scripted (turn :: rest) => (.scripted rest, turn, [])
  | .http endpoint token exchange =>
    let d := deliver endpoint token exchange m
    (r, ⟨false, answerOf d.verdict⟩, d.log)

/-- Gives a scripted side more answers. -/
def extend (r : Remote) (more : List Turn) : Remote :=
  match r with
  | .scripted script => .scripted (script ++ more)
  | r => r

end Remote

end Outbox
