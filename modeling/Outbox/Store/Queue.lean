import Outbox.Error
import Outbox.Json.Reader
import Outbox.Mutation
import Outbox.Store.Database

/-!
# Queued mutations in the database

A mutation is a row: names, texts, the payload as JSON, times in milliseconds. Reading a row first
checks the kinds of its cells from left to right, then the operation, the entity kind, the payload
and the state. A list of rows fails as a whole at its first row that cannot be read.
-/
namespace Outbox

open Table Time

/-- Reads a stored payload. -/
def parsePayload (s : String) : Except Error Json :=
  match Json.parse s with
  | .ok v => .ok v
  | .error e => .error (.serialization e)

namespace Mutation

/-- The first eight cells, which the queue and the dead letters share. -/
def cells (m : Mutation) : List Cell :=
  [.text m.id, .text m.operation.name, .text m.kind.name, .text m.entityId, .text m.payload.text,
    .integer m.enqueuedAt.toMillis, .integer m.retries, .ofOption .text m.lastError]

/-- The row of a queued mutation. -/
def toRow (m : Mutation) : List Cell := m.cells ++ [.text m.state.name]

end Mutation

/-- The plain contents of a row before names and payload are read. -/
structure StoredMutation where
  id : String
  operation : String
  kind : String
  entityId : String
  payload : String
  enqueuedAt : Int
  retries : Nat
  lastError : Option String

namespace StoredMutation

/-- The shared cells of a row. -/
def ofRow (r : Row) : Except Table.Fault StoredMutation := do
  let id ← Place.text ⟨0, "id"⟩ (r.cell 0)
  let operation ← Place.text ⟨1, "operation"⟩ (r.cell 1)
  let kind ← Place.text ⟨2, "entity_type"⟩ (r.cell 2)
  let entityId ← Place.text ⟨3, "entity_id"⟩ (r.cell 3)
  let payload ← Place.text ⟨4, "data"⟩ (r.cell 4)
  let enqueuedAt ← Place.integer ⟨5, "enqueued_at"⟩ (r.cell 5)
  let retries ← Place.nat32 ⟨6, "retry_count"⟩ (r.cell 6)
  let lastError ← Place.text? ⟨7, "last_error"⟩ (r.cell 7)
  pure ⟨id, operation, kind, entityId, payload, enqueuedAt, retries, lastError⟩

/-- The mutation of the contents, in the state that the last step reads. -/
def toMutation (s : StoredMutation) (readState : Except Error DeliveryState) :
    Except Error Mutation := do
  let operation ← Operation.parse s.operation
  let kind ← EntityKind.parse s.kind
  let payload ← parsePayload s.payload
  let state ← readState
  pure {
    id := s.id
    operation := operation
    kind := kind
    entityId := s.entityId
    payload := payload
    enqueuedAt := .ofMillis s.enqueuedAt
    retries := s.retries
    lastError := s.lastError
    state := state }

end StoredMutation

/-- Reads a row of the queue. -/
def Mutation.ofRow (r : Row) : Except Error Mutation := do
  let stored ← Error.ofTable (StoredMutation.ofRow r)
  let state ← Error.ofTable (Place.text ⟨8, "status"⟩ (r.cell 8))
  stored.toMutation (DeliveryState.parse state)

namespace Database

/-- The order of the queue: by time, and then as inserted. -/
def queueOrder : List Nat := [5]

def insertMutation (db : Database) (m : Mutation) : Except Error Database :=
  Error.ofTable (db.insert .queue m.toRow)

/-- Writes back the failure count, the latest error and the state; says whether the mutation was
still there. -/
def updateRetryState (db : Database) (m : Mutation) : Except Error (Database × Bool) :=
  Error.ofTable (db.update .queue (.text m.id) fun old =>
    Table.replaceAt [6, 7, 8] old m.toRow)

def deleteMutation (db : Database) (id : String) : Except Error (Database × Bool) :=
  Error.ofTable (db.deleteKey .queue id)

def mutation? (db : Database) (id : String) : Except Error (Option Mutation) := do
  match ← Error.ofTable (db.row? .queue id) with
  | some r => (Mutation.ofRow r).map some
  | none => pure none

/-- The selected mutations in the order of the queue. -/
def selectMutations (db : Database) (selects : Row → Bool) : Except Error (List Mutation) := do
  let rows ← Error.ofTable (db.select .queue selects queueOrder)
  rows.mapM Mutation.ofRow

/-- All queued mutations, oldest first. -/
def mutations (db : Database) : Except Error (List Mutation) := db.selectMutations fun _ => true

def mutationsOf (db : Database) (kind : EntityKind) (entityId : String) :
    Except Error (List Mutation) :=
  db.selectMutations fun r =>
    (r.cell 2).sameValue (.text kind.name) && (r.cell 3).sameValue (.text entityId)

def mutationsIn (db : Database) (state : DeliveryState) : Except Error (List Mutation) :=
  db.selectMutations fun r => (r.cell 8).sameValue (.text state.name)

def countMutations (db : Database) : Except Error Nat := Error.ofTable (db.count .queue)

/-- Empties the queue and says how many mutations it held. -/
def clearMutations (db : Database) : Except Error (Database × Nat) :=
  Error.ofTable (db.delete .queue fun _ => true)

end Database

end Outbox
