import Outbox.Table.Cell

/-!
# Why a statement on tables fails
-/
namespace Outbox.Table

inductive Fault where
  | noRows
  | noSuchTable (table : String)
  | noSuchColumn (table column : String)
  | noSuchGuard (guard : String)
  | guardExists (guard : String)
  /-- A guard refuses the statement. -/
  | forbidden
  | notUnique (table column : String)
  | missingValue (table column : String)
  | wrongKind (index : Nat) (column : String) (kind : CellKind)
  | outOfRange (index : Nat) (value : Int)
  | cannotOpen (path : String)
  | notADatabase
  /-- There is no room to make the changes of a transaction last. -/
  | full
  deriving DecidableEq

namespace Fault

def message : Fault → String
  | .noRows => "Query returned no rows"
  | .noSuchTable table => "no such table: " ++ table
  | .noSuchColumn table column => "table " ++ table ++ " has no column named " ++ column
  | .noSuchGuard guard => "no such trigger: " ++ guard
  | .guardExists guard => "trigger " ++ guard ++ " already exists"
  | .forbidden => "forbidden"
  | .notUnique table column => "UNIQUE constraint failed: " ++ table ++ "." ++ column
  | .missingValue table column => "NOT NULL constraint failed: " ++ table ++ "." ++ column
  | .wrongKind index column kind =>
    "Invalid column type " ++ kind.name ++ " at index: " ++ toString index ++ ", name: " ++ column
  | .outOfRange index value =>
    "Integer " ++ toString value ++ " out of range at index " ++ toString index
  | .cannotOpen path => "unable to open database file: " ++ path
  | .notADatabase => "file is not a database"
  | .full => "database or disk is full"

end Fault

/-! ## Reading cells -/

/-- Where a cell stands in a row, for messages. -/
structure Place where
  index : Nat
  column : String

namespace Place

def wrongKind {α : Type} (p : Place) (c : Cell) : Except Fault α :=
  .error (.wrongKind p.index p.column c.kind)

def text (p : Place) : Cell → Except Fault String
  | .text s => .ok s
  | c => p.wrongKind c

def text? (p : Place) : Cell → Except Fault (Option String)
  | .null => .ok none
  | c => (p.text c).map some

def integer (p : Place) : Cell → Except Fault Int
  | .integer n => .ok n
  | c => p.wrongKind c

def integer? (p : Place) : Cell → Except Fault (Option Int)
  | .null => .ok none
  | c => (p.integer c).map some

/-- A natural number of 32 bits. -/
def nat32 (p : Place) (c : Cell) : Except Fault Nat :=
  match c with
  | .integer n =>
    if 0 ≤ n ∧ n < UInt32.size then .ok n.toNat else .error (.outOfRange p.index n)
  | c => p.wrongKind c

def blob (p : Place) : Cell → Except Fault (List UInt8)
  | .blob bytes => .ok bytes
  | c => p.wrongKind c

end Place

end Outbox.Table
