import Outbox.Table.Basic

/-!
# The database

The tables by name, of which any may be missing. A statement on a missing table fails; any other
statement changes its own table only. A transaction is a sequence of statements that take effect
together when it is committed, or not at all.
-/
namespace Outbox

open Table

structure Database where
  queue : Option Table
  deadLetters : Option Table
  cache : Option Table
  incidents : Option Table
  audits : Option Table
  risks : Option Table
  documents : Option Table
  complianceItems : Option Table
  settings : Option Table
  uploads : Option Table
  history : Option Table
  /-- Whether transactions fail when they are committed. -/
  isFull : Bool
  deriving DecidableEq

namespace Database

/-- A database without tables. -/
def empty : Database :=
  ⟨none, none, none, none, none, none, none, none, none, none, none, false⟩

/-- The table of a name. -/
def get? (db : Database) : TableName → Option Table
  | .queue => db.queue
  | .deadLetters => db.deadLetters
  | .cache => db.cache
  | .collection .incidents => db.incidents
  | .collection .audits => db.audits
  | .collection .risks => db.risks
  | .collection .documents => db.documents
  | .collection .complianceItems => db.complianceItems
  | .settings => db.settings
  | .uploads => db.uploads
  | .history => db.history

/-- Replaces or removes a table. -/
def set (db : Database) (name : TableName) (t : Option Table) : Database :=
  match name with
  | .queue => { db with queue := t }
  | .deadLetters => { db with deadLetters := t }
  | .cache => { db with cache := t }
  | .collection .incidents => { db with incidents := t }
  | .collection .audits => { db with audits := t }
  | .collection .risks => { db with risks := t }
  | .collection .documents => { db with documents := t }
  | .collection .complianceItems => { db with complianceItems := t }
  | .settings => { db with settings := t }
  | .uploads => { db with uploads := t }
  | .history => { db with history := t }

@[simp] theorem get?_set_self (db : Database) (name : TableName) (t : Option Table) :
    (db.set name t).get? name = t := by
  cases name with
  | collection kind => cases kind <;> rfl
  | _ => rfl

theorem get?_set_of_ne (db : Database) {name other : TableName} (h : other ≠ name)
    (t : Option Table) : (db.set name t).get? other = db.get? other := by
  cases name with
  | collection kind => cases kind <;> cases other with
    | collection other => cases other <;> first | rfl | exact absurd rfl h
    | _ => rfl
  | _ => cases other with
    | collection other => cases other <;> rfl
    | _ => first | rfl | exact absurd rfl h

/-- The table of a name, for a statement. -/
def table (db : Database) (name : TableName) : Except Fault Table :=
  match db.get? name with
  | some t => .ok t
  | none => .error (.noSuchTable name.name)

/-! ## Statements -/

def insert (db : Database) (name : TableName) (cells : List Cell) : Except Fault Database := do
  let t ← db.table name
  let t ← t.insert name cells
  pure (db.set name (some t))

/-- Inserts a row; where the key is taken, the cells at some positions are replaced. -/
def upsert (db : Database) (name : TableName) (cells : List Cell) (replaced : List Nat) :
    Except Fault Database := do
  let t ← db.table name
  let t ← t.upsert name cells (Table.replaceAt replaced)
  pure (db.set name (some t))

/-- Replaces cells of the row of a key, and says whether there was one. -/
def update (db : Database) (name : TableName) (key : Cell) (change : List Cell → List Cell) :
    Except Fault (Database × Bool) := do
  let t ← db.table name
  let selects (r : Row) : Bool := (r.cell 0).sameValue key
  let found := t.rows.any selects
  let t ← t.update selects change
  pure (db.set name (some t), found)

/-- Removes the selected rows and counts them. -/
def delete (db : Database) (name : TableName) (selects : Row → Bool) :
    Except Fault (Database × Nat) := do
  let t ← db.table name
  let (t, n) ← t.delete selects
  pure (db.set name (some t), n)

/-- Removes the row of a key, and says whether there was one. -/
def deleteKey (db : Database) (name : TableName) (key : String) :
    Except Fault (Database × Bool) := do
  let (db, n) ← db.delete name fun r => (r.cell 0).sameValue (.text key)
  pure (db, 0 < n)

/-- The row of a key. -/
def row? (db : Database) (name : TableName) (key : String) : Except Fault (Option Row) := do
  let t ← db.table name
  let rows ← t.rowsWhere fun r => (r.cell 0).sameValue (.text key)
  pure rows.head?

/-- The selected rows in the order of some of their cells. -/
def select (db : Database) (name : TableName) (selects : Row → Bool) (order : List Nat) :
    Except Fault (List Row) := do
  let t ← db.table name
  t.select selects order

def count (db : Database) (name : TableName) : Except Fault Nat := do
  let t ← db.table name
  let rows ← t.rowsWhere fun _ => true
  pure rows.length

/-- Drops a table with its rows, indexes and guards. -/
def drop (db : Database) (name : String) : Except Fault Database :=
  match (TableName.ofName? name).bind fun t => (db.get? t).map fun _ => t with
  | some t => .ok (db.set t none)
  | none => .error (.noSuchTable name)

/-! ## Transactions -/

/-- Runs statements of which a failed one undoes those before it. -/
def atomically {α ε : Type} (f : Database → Except ε (Database × α)) (db : Database) :
    Database × Except ε α :=
  match f db with
  | .ok (changed, x) => (changed, .ok x)
  | .error fault => (db, .error fault)

/-- The last step of a transaction. -/
def commit (db : Database) : Except Fault Unit := if db.isFull then .error .full else .ok ()

/-! ## Guards -/

/-- The name that the guards of a table against one kind of change have. -/
def guardName (table : String) (action : Action) : String :=
  "forbid_" ++ table ++ "_" ++ action.name

/-- Sets a guard; there is one at most for each table and kind of change. -/
def forbid (db : Database) (table : String) (action : Action) (column : String) (value : Cell) :
    Except Fault Database :=
  match (TableName.ofName? table).bind fun n => (db.get? n).map fun t => (n, t) with
  | none => .error (.noSuchTable ("main." ++ table))
  | some (name, t) =>
    if t.guards.any (·.action == action) then .error (.guardExists (guardName table action))
    else
      let index := name.columns.findIdx (·.name == column)
      let value := ((name.columns[index]?).map (·.affinity.convert value)).getD value
      .ok (db.set name (some { t with guards := t.guards ++ [⟨action, index, value⟩] }))

/-- Lifts a guard. -/
def allow (db : Database) (table : String) (action : Action) : Except Fault Database :=
  match (TableName.ofName? table).bind fun n => (db.get? n).map fun t => (n, t) with
  | none => .error (.noSuchGuard (guardName table action))
  | some (name, t) =>
    if t.guards.any (·.action == action) then
      .ok (db.set name (some { t with guards := t.guards.filter (·.action != action) }))
    else .error (.noSuchGuard (guardName table action))

/-! ## Rows given by column names -/

/-- Inserts a row of which some columns are given; the others take their defaults. -/
def insertNamed (db : Database) (table : String) (given : List (String × Cell)) :
    Except Fault Database :=
  match (TableName.ofName? table).bind fun n => (db.get? n).map fun _ => n with
  | none => .error (.noSuchTable table)
  | some name =>
    match given.find? fun (column, _) => !name.columns.any (·.name == column) with
    | some (column, _) => .error (.noSuchColumn table column)
    | none =>
      db.insert name (name.columns.map fun c =>
        c.affinity.convert ((given.lookup c.name).getD c.absent))

end Database

end Outbox
