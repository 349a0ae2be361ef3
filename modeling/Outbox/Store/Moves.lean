import Outbox.Store.Collections
import Outbox.Store.DeadLetters

/-!
# Mutations between the tables

Operations of several statements. A mutation that is put into the queue or taken out of it is
counted with the next statement. Where two tables have to agree, the statements form a transaction:
a local copy and the mutation that made it, a mutation and its dead letter, the records of one
batch.
-/
namespace Outbox

open Table Time

namespace Database

/-- Statements that take effect together; the last step is to commit them. -/
def transaction {α : Type} (f : Database → Except Error (Database × α)) (db : Database) :
    Database × Except Error α :=
  db.atomically fun db => do
    let (db, x) ← f db
    Error.ofTable db.commit
    pure (db, x)

/-- Queues a mutation; the result is the new length of the queue. -/
def enqueue (db : Database) (m : Mutation) : Database × Except Error Nat :=
  match db.insertMutation m with
  | .error fault => (db, .error fault)
  -- The count is a statement of its own: where it is refused, the row stays.
  | .ok db => (db, db.countMutations)

/-- Removes a mutation; the result says whether it was there, and how long the queue is now. -/
def dequeue (db : Database) (id : String) : Database × Except Error (Bool × Nat) :=
  match db.deleteMutation id with
  | .error fault => (db, .error fault)
  | .ok (db, removed) => (db, db.countMutations.map fun pending => (removed, pending))

/-- Makes the change of a mutation in the local copies. -/
def changeCopy (db : Database) (m : Mutation) (now : Instant) : Except Error Database :=
  match m.operation with
  | .create | .update => db.putEntity m.kind ⟨m.entityId, m.payload, now⟩
  | .delete => (db.deleteEntity m.kind m.entityId).map (·.1)

/-- Makes the change of a mutation here and queues it for the remote side. -/
def mutate (db : Database) (m : Mutation) (now : Instant) : Database × Except Error Nat :=
  db.transaction fun db => do
    let db ← db.changeCopy m now
    let db ← db.insertMutation m
    let pending ← db.countMutations
    pure (db, pending)

/-- Moves a mutation from the queue to the dead letters. -/
def bury (db : Database) (l : DeadLetter) : Database × Except Error Nat :=
  db.transaction fun db => do
    let db ← db.insertDeadLetter l
    let (db, _) ← db.deleteMutation l.mutation.id
    let pending ← db.countMutations
    pure (db, pending)

/-- Moves a dead letter, if there is one, back to the end of the queue. -/
def revive (db : Database) (id : String) (now : Instant) :
    Database × Except Error (Option (Mutation × Nat)) :=
  db.atomically fun db => do
    match ← db.deadLetter? id with
    | none => pure (db, none)
    | some l =>
      let m := l.mutation.renewed now
      let (db, _) ← db.deleteDeadLetter id
      let db ← db.insertMutation m
      let pending ← db.countMutations
      Error.ofTable db.commit
      pure (db, some (m, pending))

/-- Stores a batch of records. -/
def putBatch (db : Database) (kind : EntityKind) (records : List EntityRecord) :
    Database × Except Error Unit :=
  db.transaction fun db => (db.putEntities kind records).map fun db => (db, ())

end Database

end Outbox
