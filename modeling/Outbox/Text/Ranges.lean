/-!
# Sets of characters as ranges of code points

A set is kept as the list of its maximal runs. The tables of the library are written as text: runs
separated by blanks, each one or two hexadecimal code points, the first and the last of the run.
-/
namespace Outbox.Text

/-- A run of code points, both ends included. -/
structure CodeRange where
  first : Nat
  last : Nat
  deriving DecidableEq, Repr

namespace CodeRange

def contains (r : CodeRange) (c : Char) : Bool := r.first ≤ c.toNat && c.toNat ≤ r.last

end CodeRange

/-- The value of a hexadecimal digit of either case. -/
def hexValue? (c : Char) : Option Nat :=
  if '0' ≤ c ∧ c ≤ '9' then some (c.toNat - '0'.toNat)
  else if 'a' ≤ c ∧ c ≤ 'f' then some (c.toNat - 'a'.toNat + 10)
  else if 'A' ≤ c ∧ c ≤ 'F' then some (c.toNat - 'A'.toNat + 10)
  else none

/-- The number written by the hexadecimal digits of a text; other characters are passed over. -/
def hexNat (cs : List Char) : Nat :=
  cs.foldl (fun n c => match hexValue? c with
    | some d => 16 * n + d
    | none => n) 0

/-- The words of a text, separated by spaces and line ends. -/
def blankWords (cs : List Char) : List (List Char) :=
  let (words, last) := cs.foldr (fun c (words, word) =>
    if c = ' ' ∨ c = '\n' then (if word.isEmpty then words else word :: words, [])
    else (words, c :: word)) (([] : List (List Char)), ([] : List Char))
  if last.isEmpty then words else last :: words

/-- Reads a table of runs. -/
def codeRanges (table : String) : List CodeRange :=
  (blankWords table.toList).map fun word =>
    let first := hexNat (word.takeWhile (· ≠ '-'))
    match word.dropWhile (· ≠ '-') with
    | [] => ⟨first, first⟩
    | _ :: rest => ⟨first, hexNat rest⟩

/-- Reads a table of runs with a class each, which follows an equals sign. -/
def codeClasses (table : String) : List (CodeRange × List Char) :=
  (blankWords table.toList).flatMap fun word =>
    (codeRanges (String.ofList (word.takeWhile (· ≠ '=')))).map fun range =>
      (range, (word.dropWhile (· ≠ '=')).drop 1)

/-- The class of the first run that holds the character. -/
def classOf? (table : List (CodeRange × List Char)) (c : Char) : Option (List Char) :=
  (table.find? fun (range, _) => range.contains c).map (·.2)

/-- Whether some run of the table holds the character. -/
def inRanges (ranges : List CodeRange) (c : Char) : Bool := ranges.any (·.contains c)

end Outbox.Text
