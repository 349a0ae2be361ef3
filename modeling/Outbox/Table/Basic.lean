import Outbox.Table.Fault
import Outbox.Table.Schema

/-!
# Tables and statements on them

A table keeps its rows in the order of their row numbers; a new row takes the number after the
largest in use, so numbers of deleted rows at the end come back. A statement takes effect as a
whole or not at all: guards are asked first, then the columns that refuse to be empty, then the
key.
-/
namespace Outbox

namespace Table

/-- A row: its number and its cells, in the order of the columns. -/
structure Row where
  number : Nat
  cells : List Cell
  deriving DecidableEq

namespace Row

def cell (r : Row) (index : Nat) : Cell := (r.cells[index]?).getD .null

end Row

/-- What a statement does with the rows of a table. -/
inductive Action where
  | insert
  | update
  | delete
  /-- Looks at rows, or counts them. -/
  | read
  deriving DecidableEq, Repr

namespace Action

def name : Action → String
  | insert => "insert"
  | update => "update"
  | delete => "delete"
  | read => "read"

def ofName? (s : String) : Option Action := [insert, update, delete, read].find? (·.name == s)

end Action

/-- A guard refuses statements of one kind on rows that hold a value. -/
structure Guard where
  action : Action
  index : Nat
  value : Cell
  deriving DecidableEq

end Table

open Table

/-- The rows of a table, by ascending number, and its guards. -/
structure Table where
  rows : List Row
  guards : List Guard
  deriving DecidableEq

namespace Table

def empty : Table := ⟨[], []⟩

/-- The number of the next row. -/
def nextNumber (t : Table) : Nat := (t.rows.foldl (fun n r => max n r.number) 0) + 1

/-- Whether a guard refuses a statement on a row with these cells. -/
def refuses (t : Table) (action : Action) (cells : List Cell) : Bool :=
  t.guards.any fun g => g.action == action && ((cells[g.index]?).getD .null).sameValue g.value

/-- The row with this key. -/
def find? (t : Table) (key : Cell) : Option Row := t.rows.find? fun r => (r.cell 0).sameValue key

/-- The first column that must hold a value and does not. -/
def missingColumn? : List Column → List Cell → Option String
  | [], _ => none
  | c :: columns, cells =>
    if c.notNull && cells.headD .null == .null then some c.name
    else missingColumn? columns cells.tail

/-- Adds a row after all others. -/
def append (t : Table) (cells : List Cell) : Table :=
  { t with rows := t.rows ++ [⟨t.nextNumber, cells⟩] }

/-- Guards and required columns of a new row. -/
def checkNew (name : TableName) (t : Table) (cells : List Cell) : Except Fault Unit :=
  if t.refuses .insert cells then .error .forbidden
  else
    match missingColumn? name.columns cells with
    | some column => .error (.missingValue name.name column)
    | none => .ok ()

/-- Adds a row with a new key. -/
def insert (name : TableName) (t : Table) (cells : List Cell) : Except Fault Table := do
  checkNew name t cells
  match t.find? (cells.headD .null) with
  | some _ => .error (.notUnique name.name ((name.columns.map (·.name)).headD ""))
  | none => pure (t.append cells)

/-- Changes the cells of the rows that are selected. -/
def update (t : Table) (selects : Row → Bool) (change : List Cell → List Cell) :
    Except Fault Table :=
  -- A guard on one of the rows undoes the statement for all of them.
  if t.rows.any (fun r => selects r && t.refuses .update r.cells) then .error .forbidden
  else
    let changed (r : Row) : Row := if selects r then { r with cells := change r.cells } else r
    .ok { t with rows := t.rows.map changed }

/-- Adds a row, or merges it into the row that has its key. -/
def upsert (name : TableName) (t : Table) (cells : List Cell)
    (merge : List Cell → List Cell → List Cell) : Except Fault Table := do
  -- Guards against insertion and required columns come before the key is looked at.
  checkNew name t cells
  match t.find? (cells.headD .null) with
  | some _ =>
    t.update (fun r => (r.cell 0).sameValue (cells.headD .null)) fun old => merge old cells
  | none => pure (t.append cells)

/-- Removes the rows that are selected, and counts them. -/
def delete (t : Table) (selects : Row → Bool) : Except Fault (Table × Nat) :=
  if t.rows.any (fun r => selects r && t.refuses .delete r.cells) then .error .forbidden
  else .ok ({ t with rows := t.rows.filter fun r => !selects r }, t.rows.countP selects)

/-- Takes over the cells at some positions and keeps the others. -/
def replaceAt (positions : List Nat) (old new : List Cell) : List Cell :=
  (old.zip new).zipIdx.map fun ((o, n), i) => if positions.contains i then n else o

/-! ## Ordered views -/

/-- Compares rows by some of their cells in turn. -/
def rowLE : List Nat → Row → Row → Bool
  | [], _, _ => true
  | i :: rest, a, b =>
    match (a.cell i).compareTo (b.cell i) with
    | .lt => true
    | .gt => false
    | .eq => rowLE rest a b

/-- Puts a row before the first one that it does not come after. -/
def insertRow (le : Row → Row → Bool) (r : Row) : List Row → List Row
  | [] => [r]
  | s :: rest => if le r s then r :: s :: rest else s :: insertRow le r rest

/-- Rows in order; rows that compare equal keep the order of their numbers. -/
def sortRows (le : Row → Row → Bool) (rows : List Row) : List Row :=
  rows.foldr (insertRow le) []

/-- The selected rows, by their numbers. -/
def rowsWhere (t : Table) (selects : Row → Bool) : Except Fault (List Row) :=
  if t.rows.any (fun r => selects r && t.refuses .read r.cells) then .error .forbidden
  else .ok (t.rows.filter selects)

/-- The selected rows in the order of some of their cells. -/
def select (t : Table) (selects : Row → Bool) (order : List Nat) : Except Fault (List Row) :=
  (t.rowsWhere selects).map (sortRows (rowLE order))

end Table

end Outbox
