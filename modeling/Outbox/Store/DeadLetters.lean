import Outbox.Store.Queue

/-!
# Dead letters in the database

A dead letter keeps the mutation and the time when it was given up, but not its state: read back,
the mutation is pending. A second letter of the same mutation only renews the count, the error and
the time.
-/
namespace Outbox

open Table Time

namespace DeadLetter

def toRow (l : DeadLetter) : List Cell := l.mutation.cells ++ [.integer l.failedAt.toMillis]

def ofRow (r : Row) : Except Error DeadLetter := do
  let stored ← Error.ofTable (StoredMutation.ofRow r)
  let failedAt ← Error.ofTable (Place.integer ⟨8, "failed_at"⟩ (r.cell 8))
  let m ← stored.toMutation (.ok .pending)
  pure ⟨m, .ofMillis failedAt⟩

end DeadLetter

namespace Database

def insertDeadLetter (db : Database) (l : DeadLetter) : Except Error Database :=
  Error.ofTable (db.upsert .deadLetters l.toRow [6, 7, 8])

def deadLetter? (db : Database) (id : String) : Except Error (Option DeadLetter) := do
  match ← Error.ofTable (db.row? .deadLetters id) with
  | some r => (DeadLetter.ofRow r).map some
  | none => pure none

/-- All dead letters, oldest first. -/
def allDeadLetters (db : Database) : Except Error (List DeadLetter) := do
  let rows ← Error.ofTable (db.select .deadLetters (fun _ => true) [8])
  rows.mapM DeadLetter.ofRow

def countDeadLetters (db : Database) : Except Error Nat := Error.ofTable (db.count .deadLetters)

def deleteDeadLetter (db : Database) (id : String) : Except Error (Database × Bool) :=
  Error.ofTable (db.deleteKey .deadLetters id)

end Database

end Outbox
