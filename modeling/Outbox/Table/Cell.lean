import Outbox.Number.Binary64
import Outbox.Text.Ranges

/-!
# Cells of a table

A cell holds nothing, an integer, a double, a text or bytes, whatever its column was declared as.
The declaration only converts on the way in: a numeral becomes a number in a column of integers,
and a number becomes its numeral in a column of texts.
-/
namespace Outbox.Table

open Outbox.Number

inductive Cell where
  | null
  | integer (n : Int)
  | real (x : Binary64)
  | text (s : String)
  | blob (bytes : List UInt8)
  deriving DecidableEq

instance : Inhabited Cell := ⟨.null⟩

/-- The kind of a cell, for messages. -/
inductive CellKind where
  | null
  | integer
  | real
  | text
  | blob
  deriving DecidableEq, Repr

namespace CellKind

def name : CellKind → String
  | null => "Null"
  | integer => "Integer"
  | real => "Real"
  | text => "Text"
  | blob => "Blob"

end CellKind

namespace Cell

def kind : Cell → CellKind
  | null => .null
  | integer _ => .integer
  | real _ => .real
  | text _ => .text
  | blob _ => .blob

def ofOption {α : Type} (cell : α → Cell) : Option α → Cell
  | none => .null
  | some x => cell x

/-! ## Order -/

/-- Numbers come before texts and texts before bytes; nothing comes first of all. -/
def rank : Cell → Nat
  | null => 0
  | integer _ => 1
  | real _ => 1
  | text _ => 2
  | blob _ => 3

/-- Compares an integer with a double exactly. -/
def compareWithReal (n : Int) (x : Binary64) : Ordering :=
  let (num, den) := x.ratio
  let numerator : Int := if x.negative then -(num : Int) else num
  compare (n * den) numerator

/-- The order of cells: by kind, then by value; texts by code point, bytes as they stand. -/
def compareTo : Cell → Cell → Ordering
  | integer a, integer b => compare a b
  | integer a, real b => compareWithReal a b
  | real a, integer b => (compareWithReal b a).swap
  | real a, real b => a.compareTo b
  | text a, text b => compare a b
  | blob a, blob b => compare (a.map UInt8.toNat) (b.map UInt8.toNat)
  | a, b => compare a.rank b.rank

/-- Whether two cells have the same value; nothing equals nothing. -/
def sameValue (a b : Cell) : Bool :=
  match a, b with
  | .null, _ => false
  | a, b => a.compareTo b == .eq

end Cell

/-! ## Numerals in columns of integers -/

/-- A decimal numeral with its parts: sign, digits, and the power of ten that scales them. -/
structure Numeral where
  negative : Bool
  digits : Nat
  exponent : Int
  /-- No point and no exponent was written. -/
  isInteger : Bool

namespace Numeral

def isSpace (c : Char) : Bool := c == ' ' || (0x09 ≤ c.toNat && c.toNat ≤ 0x0d)

def isDigit (c : Char) : Bool := '0' ≤ c && c ≤ '9'

def digitsValue (cs : List Char) : Nat :=
  cs.foldl (fun n c => 10 * n + (c.toNat - '0'.toNat)) 0

/-- The exponent part, which may be missing; `none` when it is incomplete. -/
def readExponent (cs : List Char) : Option (Int × Bool × List Char) :=
  let marked (rest : List Char) : Option (Int × Bool × List Char) :=
    let (negative, rest) := match rest with
      | '-' :: rest => (true, rest)
      | '+' :: rest => (false, rest)
      | _ => (false, rest)
    let digits := rest.takeWhile isDigit
    if digits.isEmpty then none
    else
      let n : Int := digitsValue digits
      some (if negative then -n else n, true, rest.dropWhile isDigit)
  match cs with
  | 'e' :: rest => marked rest
  | 'E' :: rest => marked rest
  | _ => some (0, false, cs)

/-- Reads a text that is a numeral, blanks at its ends aside. -/
def read? (s : String) : Option Numeral :=
  let (negative, cs) := match s.toList.dropWhile isSpace with
    | '-' :: rest => (true, rest)
    | '+' :: rest => (false, rest)
    | cs => (false, cs)
  let whole := cs.takeWhile isDigit
  let cs := cs.dropWhile isDigit
  let (fraction, pointed, cs) := match cs with
    | '.' :: rest => (rest.takeWhile isDigit, true, rest.dropWhile isDigit)
    | _ => ([], false, cs)
  if whole.isEmpty && fraction.isEmpty then none
  else
    match readExponent cs with
    | none => none
    | some (exponent, marked, rest) =>
      if (rest.dropWhile isSpace).isEmpty then
        some {
          negative := negative
          digits := digitsValue (whole ++ fraction)
          exponent := exponent - fraction.length
          isInteger := !pointed && !marked }
      else none

/-- The least integer above those of a cell. -/
def integerBound : Int := 9223372036854775808

/-- The integers of a cell. -/
def isMachineInteger (n : Int) : Bool := -integerBound ≤ n && n < integerBound

/-- The greatest finite double. -/
def largestReal (negative : Bool) : Binary64 :=
  ⟨negative, ⟨Number.infinityBits - 1, by decide⟩⟩

/-- The double nearest to the numeral; one beyond the range is held at its end. -/
def toReal (n : Numeral) : Binary64 :=
  -- Powers of ten beyond these bounds leave the range of doubles for any digits of this length.
  let width : Int := (Nat.toDigits 10 n.digits).length
  if n.digits = 0 then .zeroOf n.negative
  else if 310 < n.exponent + width then largestReal n.negative
  else if n.exponent + width < -330 then .zeroOf n.negative
  else
    let ratio : Nat × Nat :=
      if 0 ≤ n.exponent then (n.digits * Nat.pow 10 n.exponent.toNat, 1)
      else (n.digits, Nat.pow 10 n.exponent.natAbs)
    (Binary64.ofRatio? n.negative ratio.1 ratio.2).getD (largestReal n.negative)

/-- The number that a column of integers keeps: an integer when the value is one of machine size,
a double otherwise. -/
def toCell (n : Numeral) : Cell :=
  let plain : Int := if n.negative then -(n.digits : Int) else n.digits
  if n.isInteger && isMachineInteger plain then .integer plain
  else
    let x := n.toReal
    match x.toInt? with
    | some i => if -integerBound < i ∧ i < integerBound - 1 then .integer i else .real x
    | none => .real x

end Numeral

/-- What a column converts its cells to. -/
inductive Affinity where
  | text
  | integer
  | none
  deriving DecidableEq, Repr

namespace Affinity

/-- The conversion on the way into a column. -/
def convert : Affinity → Cell → Cell
  | .text, .integer n => .text (toString n)
  | .integer, .text s =>
    match Numeral.read? s with
    | some n => n.toCell
    | Option.none => .text s
  | _, c => c

end Affinity

end Outbox.Table
