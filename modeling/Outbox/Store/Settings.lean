import Outbox.Store.Queue

/-!
# Settings in the database
-/
namespace Outbox

open Table

namespace Database

def putSetting (db : Database) (s : Setting) : Except Error Database :=
  Error.ofTable (db.upsert .settings [.text s.key, .text s.value.text] [1])

def setting? (db : Database) (key : String) : Except Error (Option Json) := do
  match ← Error.ofTable (db.row? .settings key) with
  | some r => do
    let value ← Error.ofTable (Place.text ⟨0, "value"⟩ (r.cell 1))
    (parsePayload value).map some
  | none => pure none

/-- Reads a row with its key. -/
def settingOfRow (r : Row) : Except Error Setting := do
  let key ← Error.ofTable (Place.text ⟨0, "key"⟩ (r.cell 0))
  let value ← Error.ofTable (Place.text ⟨1, "value"⟩ (r.cell 1))
  let value ← parsePayload value
  pure ⟨key, value⟩

/-- All settings by key. -/
def allSettings (db : Database) : Except Error (List Setting) := do
  let rows ← Error.ofTable (db.select .settings (fun _ => true) [0])
  rows.mapM settingOfRow

def deleteSetting (db : Database) (key : String) : Except Error (Database × Bool) :=
  Error.ofTable (db.deleteKey .settings key)

end Database

end Outbox
