import Outbox.Error
import Outbox.Log
import Outbox.Store.Database
import Outbox.Time.Rfc3339
import Outbox.Version

/-!
# Migrations

The tables are made by migrations, each of which runs once. The database keeps a record of those
it has seen. A record that does not fit the known migrations stops everything: a version without a
migration, a migration of another name or content, or a gap below the newest version. A database
of a newer version is refused before anything is changed.

In the record a checksum stands for the content of a migration. Which one that is, is a parameter of
all that reads or writes the record; the usual ones belong to the migrations themselves.
-/
namespace Outbox

open Table Time

/-- A step of the schema: the tables that it makes, where they are missing. -/
structure Migration where
  version : Nat
  name : String
  tables : List TableName
  /-- The hash of the name, the version and the text of the migration: SipHash with one round for
  each word and three at the end, under the key zero. -/
  checksum : UInt64

namespace Migration

/-- All migrations by version. -/
def all : List Migration :=
  [{ version := 1
     name := "initial_schema"
     tables := [.queue, .cache] ++ EntityKind.all.map .collection ++ [.settings, .uploads]
     checksum := 8511954826737167579 },
    { version := 2
      name := "dead_letters"
      tables := [.deadLetters]
      checksum := 4638817512852352589 }]

def title (version : Int) (name : String) : String := "V" ++ toString version ++ "__" ++ name

/-- A migration as the database remembers it. -/
structure Applied where
  version : Int
  name : String
  checksum : Nat

/-- Why the record does not fit. -/
inductive Fault where
  | statement (fault : Table.Fault)
  | missing (version : Int) (name : String)
  | divergent (version : Int) (name : String) (known : Migration)
  /-- The record holds something else than numbers and dates where they belong. -/
  | unreadable

namespace Fault

def message : Fault → String
  | .statement fault => fault.message
  | .missing version name =>
    "migration " ++ title version name ++ " is missing from the filesystem"
  | .divergent version name known =>
    "applied migration " ++ title version name ++ " is different than filesystem one "
      ++ title known.version known.name
  | .unreadable => "checksum must be a valid u64"

end Fault

/-- Reads a number in decimal digits; a plus sign may stand before them. -/
def readNat? (s : String) : Option Nat :=
  let digits := match s.toList with
    | '+' :: digits => digits
    | digits => digits
  if digits.isEmpty || !digits.all Rfc3339.isDigit then none
  else some (digits.foldl (fun n c => 10 * n + Rfc3339.digitValue c) 0)

/-- Reads a row of the record. -/
def Applied.ofRow (r : Row) : Except Fault Applied := do
  let cell {α : Type} (x : Except Table.Fault α) : Except Fault α :=
    match x with
    | .ok x => .ok x
    | .error e => .error (.statement e)
  let version ← cell (Place.integer ⟨0, "version"⟩ (r.cell 0))
  let appliedOn ← cell (Place.text ⟨2, "applied_on"⟩ (r.cell 2))
  if (Rfc3339.read appliedOn).toBool then
    let checksum ← cell (Place.text ⟨3, "checksum"⟩ (r.cell 3))
    let name ← cell (Place.text ⟨1, "name"⟩ (r.cell 1))
    match readNat? checksum with
    | some n => if n < UInt64.size then pure ⟨version, name, n⟩ else .error .unreadable
    | none => .error .unreadable
  else .error .unreadable

/-- The record by version. -/
def applied (db : Database) : Except Fault (List Applied) :=
  match db.select .history (fun _ => true) [0] with
  | .ok rows => rows.mapM Applied.ofRow
  | .error e => .error (.statement e)

/-- Compares one remembered migration with the known one of its version. -/
def checkApplied (a : Applied) (checksum : Migration → UInt64 := Migration.checksum) :
    Except Fault Unit :=
  match all.find? fun m => (m.version : Int) = a.version with
  | none => .error (.missing a.version a.name)
  | some m =>
    if a.name = m.name ∧ a.checksum = (checksum m).toNat then .ok ()
    else .error (.divergent a.version a.name m)

/-- The migrations that are still to run: all above the newest remembered version. One below it
that was never run is missing. -/
def pending (seen : List Applied) (checksum : Migration → UInt64 := Migration.checksum) :
    Except Fault (List Migration) := do
  seen.forM (checkApplied · checksum)
  let newest := (seen.getLast?.map (·.version)).getD 0
  let new := all.filter fun m => !seen.any fun a => a.version == (m.version : Int)
  match new.find? fun m => (m.version : Int) ≤ newest with
  | some m => .error (.missing m.version m.name)
  | none => pure new

/-- Makes a table where it is missing. -/
def ensure (db : Database) (t : TableName) : Database :=
  match db.get? t with
  | some _ => db
  | none => db.set t (some .empty)

/-- Takes a version out of the record. -/
def forget (db : Database) (version : Int) : Except Table.Fault Database :=
  (db.delete .history fun r => (r.cell 0).sameValue (.integer version)).map (·.1)

/-- Puts a row into the record, in the place of one of the same version. The record is made when
it is missing. -/
def note (db : Database) (version : Int) (name checksum : String) (on : Instant) :
    Except Table.Fault Database := do
  let db ← forget (ensure db .history) version
  db.insert .history
    [.integer version, .text name, .text (String.ofList (Rfc3339.render on)), .text checksum]

/-- Makes the tables of a migration and records it. -/
def apply (db : Database) (m : Migration) (now : Instant)
    (checksum : Migration → UInt64 := Migration.checksum) : Except Fault Database :=
  let db := m.tables.foldl ensure db
  match db.insert .history
    [.integer m.version, .text m.name, .text (String.ofList (Rfc3339.render now)),
      .text (toString (checksum m).toNat)] with
  | .ok db => .ok db
  | .error e => .error (.statement e)

/-- Runs what is still to run. The record itself stays in place when something does not fit. -/
def run (db : Database) (now : Instant) (checksum : Migration → UInt64 := Migration.checksum) :
    Database × Except Fault (List Migration) :=
  let db := ensure db .history
  -- All of the record is checked before the first migration runs.
  match (applied db).bind (pending · checksum) with
  | .error e => (db, .error e)
  | .ok new =>
    let step (state : Database × Except Fault Unit) (m : Migration) :=
      match state.2 with
      | .error e => (state.1, .error e)
      | .ok () =>
        match apply state.1 m now checksum with
        | .ok db => (db, .ok ())
        | .error e => (state.1, .error e)
    let (db, result) := new.foldl step (db, .ok ())
    (db, result.map fun _ => new)

end Migration

namespace Database

/-- The newest version of the record; a version below one counts as none. -/
def schemaVersion (db : Database) : Except Error (Option Int) :=
  match db.history with
  | none => .ok none
  | some t =>
    let cells := (t.rows.map (·.cell 0)).filter (· != .null)
    let greatest := cells.foldl (fun best c =>
      if best == .null || (best.compareTo c == .lt) then c else best) Cell.null
    match Place.integer? ⟨0, "MAX(version)"⟩ greatest with
    | .error e => .error (.database ("读取 schema 版本失败: " ++ e.message))
    | .ok version => .ok (version.filter (0 < ·))

/-- Refuses a database of a newer version. -/
def checkVersion (db : Database) : Except Error Unit := do
  match ← db.schemaVersion with
  | none => pure ()
  | some v =>
    if (Version.schema : Int) < v then
      .error (.database ("本地库版本 " ++ toString v ++ " 高于当前 SDK 支持的最高版本 "
        ++ toString Version.schema ++ "，请升级后再打开"))
    else pure ()

/-- Runs the migrations, with a log line for each that ran. -/
def migrate (db : Database) (now : Instant)
    (checksum : Migration → UInt64 := Migration.checksum) :
    Database × Except Error (List LogLine) :=
  let (db, result) := Migration.run db now checksum
  match result with
  | .error e => (db, .error (.migration ("执行 migration 失败: " ++ e.message)))
  | .ok ran =>
    (db, .ok (ran.map fun m => .info ("✅ 已执行 migration: " ++ Migration.title m.version m.name)))

/-- Prepares a database for use. -/
def prepare (db : Database) (now : Instant)
    (checksum : Migration → UInt64 := Migration.checksum) :
    Database × Except Error (List LogLine) :=
  match db.checkVersion with
  | .error e => (db, .error e)
  | .ok () => db.migrate now checksum

/-! ## The schema as data -/

/-- The tables that there are. -/
def tableNames (db : Database) : List TableName := TableName.all.filter fun t => (db.get? t).isSome

/-- Tables and indexes: the sort of object, its name, and its table. -/
def objects (db : Database) : List (String × String × String) :=
  db.tableNames.flatMap fun t =>
    ("table", t.name, t.name) ::
      t.indexes.map fun i => ("index", "idx_" ++ t.name ++ "_" ++ i, t.name)

/-- The columns of a table: name, type, whether it must hold a value, default, and whether it is
the key. -/
def describeColumns (t : TableName) : List (List String) :=
  let bit (b : Bool) : String := if b then "1" else "0"
  t.columns.map fun c =>
    [c.name, c.type, bit c.notNull, (c.default.map (·.1)).getD "null", bit c.isKey]

end Database

end Outbox
