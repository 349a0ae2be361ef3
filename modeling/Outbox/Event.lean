import Outbox.Kind
import Outbox.Time.Instant

/-!
# Events

What the library tells those who listen: a new status, the fate of a mutation after a delivery,
and the length of the queue.
-/
namespace Outbox

open Time

inductive Event where
  | statusChanged (status : Status) (time : Instant)
  /-- The remote side confirmed the mutation and it left the queue. -/
  | itemSynced (id kind entityId : String)
  /-- The delivery failed for a while and the count was written back. -/
  | itemFailed (id : String) (retries : Nat) (error : String)
  /-- The mutation reached the limit of its retries just now. -/
  | itemExhausted (id : String) (retries : Nat) (lastError : Option String)
  /-- The delivery failed for good and the mutation became a dead letter. -/
  | itemDeadLettered (id : String) (status : Option Nat) (error : String)
  | queueChanged (pending : Nat)
  deriving DecidableEq

namespace Event

def name : Event → String
  | statusChanged .. => "status_changed"
  | itemSynced .. => "item_synced"
  | itemFailed .. => "item_failed"
  | itemExhausted .. => "item_exhausted"
  | itemDeadLettered .. => "item_dead_lettered"
  | queueChanged .. => "queue_changed"

end Event

end Outbox
