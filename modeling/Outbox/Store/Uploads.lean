import Outbox.Store.Queue

/-!
# Pending uploads in the database
-/
namespace Outbox

open Table Time

namespace PendingUpload

def toRow (u : PendingUpload) : List Cell :=
  [.text u.id, .blob u.bytes, .text u.metadata.text, .integer u.enqueuedAt.toMillis]

def ofRow (r : Row) : Except Error PendingUpload := do
  let id ← Error.ofTable (Place.text ⟨0, "id"⟩ (r.cell 0))
  let bytes ← Error.ofTable (Place.blob ⟨1, "blob"⟩ (r.cell 1))
  let metadata ← Error.ofTable (Place.text ⟨2, "metadata"⟩ (r.cell 2))
  let enqueuedAt ← Error.ofTable (Place.integer ⟨3, "enqueued_at"⟩ (r.cell 3))
  let metadata ← parsePayload metadata
  pure ⟨id, bytes, metadata, .ofMillis enqueuedAt⟩

end PendingUpload

namespace Database

def insertUpload (db : Database) (u : PendingUpload) : Except Error Database :=
  Error.ofTable (db.insert .uploads u.toRow)

def upload? (db : Database) (id : String) : Except Error (Option PendingUpload) := do
  match ← Error.ofTable (db.row? .uploads id) with
  | some r => (PendingUpload.ofRow r).map some
  | none => pure none

/-- All pending uploads in the order of their arrival. -/
def allUploads (db : Database) : Except Error (List PendingUpload) := do
  let rows ← Error.ofTable (db.select .uploads (fun _ => true) [3])
  rows.mapM PendingUpload.ofRow

def deleteUpload (db : Database) (id : String) : Except Error (Database × Bool) :=
  Error.ofTable (db.deleteKey .uploads id)

def countUploads (db : Database) : Except Error Nat := Error.ofTable (db.count .uploads)

end Database

end Outbox
