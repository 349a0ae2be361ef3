/-!
# Finite double-precision numbers

A finite double is a sign and the lower 63 bits of its word. Read as a natural number these bits
grow with the absolute value, and the finite ones are exactly those below the pattern of infinity.
All arithmetic is exact on natural numbers: an operation computes the true quotient or product and
rounds once, to the nearest double, a tie going to the even neighbour.
-/
namespace Outbox.Number

/-- The leading bit of a normal significand, which the word leaves out. -/
def hiddenBit : Nat := 1 <<< 52

/-- The pattern of infinity; every smaller pattern is a finite absolute value. -/
def infinityBits : Nat := 2047 * hiddenBit

/-- A finite double: its sign and the bits of its absolute value. -/
structure Binary64 where
  negative : Bool
  bits : Fin infinityBits
  deriving DecidableEq

namespace Binary64

def zeroOf (negative : Bool) : Binary64 := ⟨negative, ⟨0, by decide⟩⟩

def zero : Binary64 := zeroOf false

instance : Inhabited Binary64 := ⟨zero⟩

/-- The integer significand: 53 bits for a normal number, fewer below the normal range. -/
def significand (x : Binary64) : Nat :=
  if x.bits.val < hiddenBit then x.bits.val else hiddenBit + x.bits.val % hiddenBit

/-- The absolute value is `significand * 2 ^ (scale - 1074)`. -/
def scale (x : Binary64) : Nat :=
  if x.bits.val < hiddenBit then 0 else x.bits.val / hiddenBit - 1

def isZero (x : Binary64) : Bool := x.bits.val == 0

def neg (x : Binary64) : Binary64 := { x with negative := !x.negative }

/-- The quotient rounded to a natural number, a tie going to the even neighbour. -/
def divNearest (num den : Nat) : Nat :=
  let quotient := num / den
  let twice := 2 * (num % den)
  if twice < den then quotient
  else if twice = den then quotient + quotient % 2
  else quotient + 1

/-- The greatest `k` with `2 ^ k * den ≤ num * 2 ^ 1074`, kept at least 52; it is the position of
the leading bit counted from the smallest positive double. -/
def leadingBit (num den : Nat) : Nat :=
  max 52 (Nat.log2 (num <<< 1074 / den))

/-- The bits of the double nearest to `num / den`; beyond the range they reach `infinityBits`. -/
def nearestBits (num den : Nat) : Nat :=
  let scale := leadingBit num den - 52
  scale * hiddenBit + divNearest (num <<< 1074) (den <<< scale)

/-- The nearest double to `num / den`, or nothing when it rounds to infinity. -/
def ofRatio? (negative : Bool) (num den : Nat) : Option Binary64 :=
  let bits := nearestBits num den
  if h : bits < infinityBits then some ⟨negative, ⟨bits, h⟩⟩ else none

/-- The numerator and denominator of the absolute value. -/
def ratio (x : Binary64) : Nat × Nat := (x.significand <<< x.scale, 1 <<< 1074)

/-- The product, or nothing when it overflows. -/
def mul? (x y : Binary64) : Option Binary64 :=
  ofRatio? (x.negative != y.negative) (x.ratio.1 * y.ratio.1) (x.ratio.2 * y.ratio.2)

/-- The quotient, or nothing when it overflows; meant for a divisor other than zero. -/
def div? (x y : Binary64) : Option Binary64 :=
  ofRatio? (x.negative != y.negative) (x.ratio.1 * y.ratio.2) (x.ratio.2 * y.ratio.1)

def ofNat? (n : Nat) : Option Binary64 := ofRatio? false n 1

/-- The double nearest to an integer of machine size. -/
def ofInt? (n : Int) : Option Binary64 := ofRatio? (n < 0) n.natAbs 1

/-- The double nearest to `10 ^ k`, for `k ≤ 308`. -/
def powerOfTen (k : Nat) : Binary64 := (ofNat? (Nat.pow 10 k)).getD zero

/-- The value as an integer, when it is one. -/
def toInt? (x : Binary64) : Option Int :=
  let (num, den) := x.ratio
  if num % den = 0 then
    let magnitude : Int := ((num / den : Nat) : Int)
    some (if x.negative then -magnitude else magnitude)
  else none

/-- Exact comparison by value; the two zeros are equal. -/
def compareTo (x y : Binary64) : Ordering :=
  let signed (z : Binary64) : Int := if z.negative then -(z.bits.val : Int) else z.bits.val
  compare (signed x) (signed y)

end Binary64

end Outbox.Number
