import Outbox.Store.Queue

/-!
# Local copies of entities

Every kind of entity has a collection: a map from ids to values with the time of the last change.
-/
namespace Outbox

open Table Time

namespace EntityRecord

def toRow (e : EntityRecord) : List Cell :=
  [.text e.id, .text e.value.text, .integer e.updatedAt.toMillis]

def ofRow (r : Row) : Except Error EntityRecord := do
  let id ← Error.ofTable (Place.text ⟨0, "id"⟩ (r.cell 0))
  let value ← Error.ofTable (Place.text ⟨1, "data"⟩ (r.cell 1))
  let updatedAt ← Error.ofTable (Place.integer ⟨2, "updated_at"⟩ (r.cell 2))
  let value ← parsePayload value
  pure ⟨id, value, .ofMillis updatedAt⟩

end EntityRecord

namespace Database

def putEntity (db : Database) (kind : EntityKind) (e : EntityRecord) : Except Error Database :=
  Error.ofTable (db.upsert (.collection kind) e.toRow [1, 2])

/-- Stores several records, all or none. -/
def putEntities (db : Database) (kind : EntityKind) (records : List EntityRecord) :
    Except Error Database :=
  records.foldlM (fun db e => db.putEntity kind e) db

def entity? (db : Database) (kind : EntityKind) (id : String) :
    Except Error (Option EntityRecord) := do
  match ← Error.ofTable (db.row? (.collection kind) id) with
  | some r => (EntityRecord.ofRow r).map some
  | none => pure none

/-- All records of a kind, by time and then by id. -/
def entities (db : Database) (kind : EntityKind) : Except Error (List EntityRecord) := do
  let rows ← Error.ofTable (db.select (.collection kind) (fun _ => true) [2, 0])
  rows.mapM EntityRecord.ofRow

def deleteEntity (db : Database) (kind : EntityKind) (id : String) :
    Except Error (Database × Bool) :=
  Error.ofTable (db.deleteKey (.collection kind) id)

def countEntities (db : Database) (kind : EntityKind) : Except Error Nat :=
  Error.ofTable (db.count (.collection kind))

def clearEntities (db : Database) (kind : EntityKind) : Except Error (Database × Nat) :=
  Error.ofTable (db.delete (.collection kind) fun _ => true)

end Database

end Outbox
