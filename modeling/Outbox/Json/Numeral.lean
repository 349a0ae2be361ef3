import Outbox.Json.Fault
import Outbox.Text.Ranges

/-!
# Reading numerals

An integer of machine size keeps its kind. Any other numeral is a double: the digits are gathered
into a 64-bit significand, digits that no longer fit only move the decimal point, and the
significand is then scaled by a power of ten in double arithmetic. That is up to two roundings, so
a long numeral may miss the nearest double by a last bit.
-/
namespace Outbox.Json

open Outbox.Number

/-- The value of a decimal digit. -/
def digit? (c : Char) : Option Nat :=
  if '0' ≤ c ∧ c ≤ '9' then some (c.toNat - '0'.toNat) else none

def startsWithDigit : List Char → Bool
  | c :: _ => (digit? c).isSome
  | [] => false

def dropDigits (cs : List Char) : List Char := cs.dropWhile fun c => (digit? c).isSome

/-- The greatest significand. -/
def maxSignificand : Nat := UInt64.size - 1

/-- The greatest decimal exponent that is read digit by digit. -/
def maxExponent : Nat := UInt32.size / 2 - 1

/-- Scales by a power of ten, in steps that stay inside the range of doubles. -/
def scaleByTen (x : Binary64) (exponent : Int) : Nat → Except Fault Binary64
  | 0 => .ok x
  | fuel + 1 =>
    if exponent.natAbs ≤ 308 then
      let power := Binary64.powerOfTen exponent.natAbs
      match if 0 ≤ exponent then x.mul? power else x.div? power with
      | some y => .ok y
      | none => .error .numberOutOfRange
    else if x.isZero then .ok x
    else if 0 ≤ exponent then .error .numberOutOfRange
    else
      (x.div? (Binary64.powerOfTen 308)).elim (.error .numberOutOfRange)
        fun y => scaleByTen y (exponent + 308) fuel

/-- The double of a sign, a significand and a power of ten. -/
def realOfParts (negative : Bool) (significand : Nat) (exponent : Int) :
    Except Fault Binary64 := do
  let start := (Binary64.ofNat? significand).getD .zero
  -- Four steps take any significand below the smallest double.
  let x ← scaleByTen start (if exponent < -1200 then -1200 else exponent) 5
  pure (if negative then x.neg else x)

/-- The digits of an exponent. `none` when the exponent leaves the range that is read. -/
def exponentDigits (exponent : Nat) : List Char → Option Nat × List Char
  | [] => (some exponent, [])
  | c :: rest =>
    match digit? c with
    | none => (some exponent, c :: rest)
    | some d =>
      if maxExponent < exponent * 10 + d then (none, rest)
      else exponentDigits (exponent * 10 + d) rest

/-- What follows `e`, which is already read. -/
def readExponent (negative : Bool) (significand : Nat) (start : Int) (cs : List Char) :
    Except Fault (Binary64 × List Char) :=
  let (down, cs) := match cs with
    | '+' :: rest => (false, rest)
    | '-' :: rest => (true, rest)
    | _ => (false, cs)
  match cs with
  | [] => .error .endInValue
  | c :: rest =>
    match digit? c with
    | none => .error .invalidNumber
    | some d =>
      match exponentDigits d rest with
      | (some e, rest) => do
        let x ← realOfParts negative significand (if down then start - e else start + e)
        pure (x, rest)
      | (none, rest) =>
        if significand ≠ 0 ∧ !down then .error .numberOutOfRange
        else .ok (if negative then Binary64.zero.neg else Binary64.zero, dropDigits rest)

/-- The end of a numeral after its digits: an exponent, or nothing. -/
def readScale (negative : Bool) (significand : Nat) (exponent : Int) (cs : List Char) :
    Except Fault (Binary64 × List Char) :=
  match cs with
  | 'e' :: rest => readExponent negative significand exponent rest
  | 'E' :: rest => readExponent negative significand exponent rest
  | _ => do
    let x ← realOfParts negative significand exponent
    pure (x, cs)

/-- The digits after the decimal point. Once a digit does not fit, the rest is passed over. -/
def fractionDigits (significand : Nat) (exponent : Int) : List Char → Nat × Int × List Char
  | [] => (significand, exponent, [])
  | c :: rest =>
    match digit? c with
    | none => (significand, exponent, c :: rest)
    | some d =>
      if maxSignificand < significand * 10 + d then (significand, exponent, dropDigits rest)
      else fractionDigits (significand * 10 + d) (exponent - 1) rest

/-- What follows the decimal point, which is already read. -/
def readFraction (negative : Bool) (significand : Nat) (start : Int) (cs : List Char) :
    Except Fault (Binary64 × List Char) :=
  match cs with
  | [] => .error .endInValue
  | c :: _ =>
    if (digit? c).isNone then .error .invalidNumber
    else
      let (significand, exponent, rest) := fractionDigits significand start cs
      readScale negative significand exponent rest

/-- The digits before the decimal point: the significand, the number of digits that did not fit
it, and the rest. -/
def integerDigits (significand : Nat) : List Char → Nat × Nat × List Char
  | [] => (significand, 0, [])
  | c :: rest =>
    match digit? c with
    | none => (significand, 0, c :: rest)
    | some d =>
      if maxSignificand < significand * 10 + d then
        (significand, 1 + (rest.takeWhile fun c => (digit? c).isSome).length, dropDigits rest)
      else integerDigits (significand * 10 + d) rest

/-- An integer without fraction or exponent. -/
def Number.ofInteger (negative : Bool) (significand : Nat) : Except Fault Number :=
  if negative then
    if significand = 0 then .ok (.real Binary64.zero.neg)
    else
      match Number.ofInt? (-(significand : Int)) with
      | some n => .ok n
      | none => do
        let x ← realOfParts true significand 0
        pure (.real x)
  else
    match Number.ofInt? significand with
    | some n => .ok n
    | none => .error .numberOutOfRange

/-- Reads a numeral from its first digit on; the sign is already read. -/
def readNumeral (negative : Bool) (cs : List Char) : Except Fault (Number × List Char) :=
  match cs with
  | [] => .error .endInValue
  | c :: rest =>
    match digit? c with
    | none => .error .invalidNumber
    | some d =>
      if d = 0 ∧ startsWithDigit rest then .error .invalidNumber
      else
        let (significand, extra, rest) := if d = 0 then (0, 0, rest) else integerDigits d rest
        let real (r : Except Fault (Binary64 × List Char)) : Except Fault (Number × List Char) :=
          r.map fun (x, rest) => (.real x, rest)
        match rest with
        | '.' :: tail => real (readFraction negative significand extra tail)
        | 'e' :: tail => real (readExponent negative significand extra tail)
        | 'E' :: tail => real (readExponent negative significand extra tail)
        | _ =>
          if extra = 0 then do
            let n ← Number.ofInteger negative significand
            pure (n, rest)
          else real (readScale negative significand extra rest)

/-- Passes over a numeral, with the syntax checked and the size not. -/
def skipNumeral (cs : List Char) : Except Fault (List Char) :=
  let exponent (cs : List Char) : Except Fault (List Char) :=
    let cs := match cs with
      | '+' :: rest => rest
      | '-' :: rest => rest
      | _ => cs
    if startsWithDigit cs then .ok (dropDigits cs) else .error .invalidNumber
  let afterDigits (cs : List Char) : Except Fault (List Char) :=
    match cs with
    | 'e' :: rest => exponent rest
    | 'E' :: rest => exponent rest
    | _ => .ok cs
  match cs with
  | [] => .error .invalidNumber
  | c :: rest =>
    match digit? c with
    | none => .error .invalidNumber
    | some d =>
      if d = 0 ∧ startsWithDigit rest then .error .invalidNumber
      else
        match if d = 0 then rest else dropDigits rest with
        | '.' :: tail =>
          if startsWithDigit tail then afterDigits (dropDigits tail) else .error .invalidNumber
        | cs => afterDigits cs

end Outbox.Json
