import Outbox.Number.Binary64

/-!
# The shortest decimal that reads back

A double stands for every real that rounds to it. Among the decimals in that interval the shortest
one is written, and of several shortest the one nearest to the double. The search goes through the
decimal grids from coarse to fine and looks at the two neighbours of the value on each grid.
-/
namespace Outbox.Number

/-- A decimal `digits * 10 ^ exponent`. -/
structure Decimal where
  digits : Nat
  exponent : Int
  deriving DecidableEq, Repr

namespace Decimal

/-- Drops trailing zeros of the digits; `fuel` bounds their number. -/
def trim (d : Decimal) : Nat → Decimal
  | 0 => d
  | fuel + 1 =>
    if d.digits % 10 = 0 ∧ d.digits ≠ 0 then
      trim ⟨d.digits / 10, d.exponent + 1⟩ fuel
    else d

end Decimal

namespace Binary64

/-- One, counted in quarters of the smallest positive double. -/
def quarters : Nat := 1 <<< 1076

/-- The value and the two ends of its rounding interval, over the common denominator
`quarters`, and whether the ends themselves round to the value. -/
structure Interval where
  low : Nat
  value : Nat
  high : Nat
  closed : Bool

/-- The interval of a positive double. Below a power of two the spacing halves. -/
def interval (x : Binary64) : Interval :=
  let m := x.significand
  let unit := 1 <<< x.scale
  let atPower := m == hiddenBit && x.scale != 0
  { low := if atPower then (4 * m - 1) * unit else (4 * m - 2) * unit
    value := 4 * m * unit
    high := (4 * m + 2) * unit
    closed := m % 2 == 0 }

namespace Interval

def contains (i : Interval) (num den : Nat) : Bool :=
  let here := num * quarters
  if i.closed then i.low * den ≤ here && here ≤ i.high * den
  else i.low * den < here && here < i.high * den

/-- The grid of multiples of `10 ^ exponent` as a ratio. -/
def grid (exponent : Int) : Nat × Nat :=
  if exponent < 0 then (1, Nat.pow 10 exponent.natAbs) else (Nat.pow 10 exponent.natAbs, 1)

/-- The grid point of the interval that is nearest to the value, if the grid has one there. -/
def nearestOn (i : Interval) (exponent : Int) : Option Decimal :=
  let (num, den) := grid exponent
  let below := i.value * den / (quarters * num)
  let above := below + 1
  let belowFits := i.contains (below * num) den
  let aboveFits := i.contains (above * num) den
  let gapBelow := i.value * den - below * num * quarters
  let gapAbove := above * num * quarters - i.value * den
  let lower : Decimal := ⟨below, exponent⟩
  let upper : Decimal := ⟨above, exponent⟩
  if belowFits && aboveFits then
    if gapBelow < gapAbove then some lower
    else if gapAbove < gapBelow then some upper
    else some (if below % 2 == 0 then lower else upper)
  else if belowFits then some lower
  else if aboveFits then some upper
  else none

/-- The first of `count` grids, each ten times finer than the last, that meets the interval. -/
def firstGrid (i : Interval) (exponent : Int) : Nat → Option Decimal
  | 0 => none
  | count + 1 =>
    match i.nearestOn exponent with
    | some d => if d.digits = 0 then i.firstGrid (exponent - 1) count else some d
    | none => i.firstGrid (exponent - 1) count

end Interval

/-- The power of ten of the leading digit is at most this. -/
def leadingPower (x : Binary64) : Int :=
  let i := x.interval
  if quarters ≤ i.value then ((Nat.toDigits 10 (i.high / quarters)).length : Int)
  else -((Nat.toDigits 10 (quarters / i.value)).length : Int) + 2

/-- The shortest decimal of a positive double: seventeen digits always suffice. -/
def shortest (x : Binary64) : Decimal :=
  if x.isZero then ⟨0, 0⟩
  else
    match x.interval.firstGrid x.leadingPower 21 with
    | some d => d.trim 20
    | none => ⟨0, 0⟩

end Binary64

/-- How a decimal is laid out: between the two bounds on the power of the leading digit it is
written positionally, outside with an exponent. -/
structure DecimalLayout where
  lowestPositional : Int
  highestPositional : Int
  /-- Whether an exponent of zero or more carries a plus sign. -/
  plusSign : Bool

namespace DecimalLayout

def layout (l : DecimalLayout) (d : Decimal) : List Char :=
  let digits := Nat.toDigits 10 d.digits
  let leading : Int := d.exponent + digits.length - 1
  if l.lowestPositional ≤ leading ∧ leading ≤ l.highestPositional then
    if 0 ≤ d.exponent then digits ++ List.replicate d.exponent.toNat '0' ++ ['.', '0']
    else if 0 ≤ leading then
      digits.take (leading.toNat + 1) ++ '.' :: digits.drop (leading.toNat + 1)
    else '0' :: '.' :: List.replicate (-leading - 1).toNat '0' ++ digits
  else
    let mark := if leading < 0 then ['e', '-'] else if l.plusSign then ['e', '+'] else ['e']
    let fraction := match digits with
      | [] => []
      | [d] => [d]
      | d :: rest => d :: '.' :: rest
    fraction ++ mark ++ Nat.toDigits 10 leading.natAbs

end DecimalLayout

/-- The text of a double in a given layout; zero is `0.0`. -/
def Binary64.render (x : Binary64) (l : DecimalLayout) : List Char :=
  (if x.negative then ['-'] else []) ++ l.layout x.shortest

end Outbox.Number
