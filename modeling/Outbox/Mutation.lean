import Outbox.Json.Value
import Outbox.Kind
import Outbox.Time.Instant

/-!
# Mutations and the records beside them

A mutation is one change of one entity that the remote side does not know yet. It waits in the
queue, counts its failed deliveries, and in the end is confirmed, removed by hand, or kept as a
dead letter. The other records are what the database holds besides: copies of the entities,
cached answers, settings and files to upload.
-/
namespace Outbox

open Time

/-- The largest failure count; counting stops there. -/
def maxRetryCount : Nat := UInt32.size - 1

/-- A change that waits to be delivered. -/
structure Mutation where
  id : String
  operation : Operation
  kind : EntityKind
  entityId : String
  payload : Json
  enqueuedAt : Instant
  /-- Failed deliveries since the mutation was queued. -/
  retries : Nat
  /-- The text of the latest failure. -/
  lastError : Option String
  state : DeliveryState
  deriving DecidableEq

namespace Mutation

/-- A mutation that was never tried. -/
def fresh (id : String) (operation : Operation) (kind : EntityKind) (entityId : String)
    (payload : Json) (now : Instant) : Mutation where
  id := id
  operation := operation
  kind := kind
  entityId := entityId
  payload := payload
  enqueuedAt := now
  retries := 0
  lastError := none
  state := .pending

/-- Counts a failure and keeps its text. -/
def recordFailure (m : Mutation) (error : String) : Mutation :=
  { m with retries := min maxRetryCount (m.retries + 1), lastError := some error }

/-- Whether the mutation has reached the limit of its retries. -/
def isExhausted (m : Mutation) : Bool := m.state == .exhausted

/-- The same change, queued anew. -/
def renewed (m : Mutation) (now : Instant) : Mutation :=
  { m with enqueuedAt := now, retries := 0, lastError := none, state := .pending }

/-- The entity in messages. -/
def entityPath (m : Mutation) : String := m.kind.name ++ "/" ++ m.entityId

/-- The operation and its entity in messages. -/
def summary (m : Mutation) : String := m.operation.name ++ " " ++ m.entityPath

end Mutation

/-- A mutation that was given up, and when. -/
structure DeadLetter where
  mutation : Mutation
  failedAt : Instant

/-- A cached value. Without an end it never expires. -/
structure CacheEntry where
  key : String
  value : Json
  storedAt : Instant
  expiresAt : Option Instant

namespace CacheEntry

/-- An entry is still there at the very instant of its end. -/
def isExpiredAt (e : CacheEntry) (now : Instant) : Bool :=
  match e.expiresAt with
  | some last => last.isBefore now
  | none => false

end CacheEntry

/-- The local copy of an entity. -/
structure EntityRecord where
  id : String
  value : Json
  updatedAt : Instant

/-- A file that waits to be uploaded. -/
structure PendingUpload where
  id : String
  bytes : List UInt8
  metadata : Json
  enqueuedAt : Instant

/-- A preference of the user; it is never delivered. -/
structure Setting where
  key : String
  value : Json

end Outbox
