import Mathlib.Algebra.Order.Field.Power
import Mathlib.Algebra.Order.Field.Rat
import Mathlib.Tactic.FieldSimp
import Mathlib.Tactic.Positivity
import Outbox.Proofs.Scaling

/-!
# Every written double is read

A double is written by a decimal that lies in its rounding interval. What is gathered of the digits
counts at most as much as this decimal, so reading it stays in the range of doubles. Only for the
greatest finite double the interval reaches too far; its decimal is a single one and is looked at by
itself.
-/
namespace Outbox.Number

/-! ## Values -/

namespace Decimal

/-- The number that a decimal stands for. -/
def value (d : Decimal) : ℚ := d.digits * 10 ^ d.exponent

/-- The power of ten of the leading digit. -/
def lead (d : Decimal) : Int := d.exponent + (Nat.toDigits 10 d.digits).length - 1

theorem value_trim (d : Decimal) (fuel : Nat) : (d.trim fuel).value = d.value := by
  induction fuel generalizing d with
  | zero => rfl
  | succ fuel ih =>
    rw [trim]
    split
    next trailing =>
      obtain ⟨k, tens⟩ := Nat.dvd_of_mod_eq_zero trailing.1
      rw [ih]
      simp only [value, tens, Nat.mul_div_cancel_left k (show 0 < 10 by decide)]
      rw [zpow_add_one₀ (by norm_num)]
      push_cast
      ring
    next => rfl

theorem value_pos_iff {d : Decimal} : 0 < d.value ↔ 0 < d.digits := by
  have power : (0 : ℚ) < 10 ^ d.exponent := by positivity
  rw [value, mul_pos_iff_of_pos_right power, Nat.cast_pos]

end Decimal

namespace Binary64

namespace Interval

theorem grid_eq (exponent : Int) :
    0 < (grid exponent).2 ∧ ((grid exponent).1 : ℚ) = 10 ^ exponent * (grid exponent).2 := by
  unfold grid
  split
  next negative =>
    obtain ⟨k, rfl⟩ := Int.exists_eq_neg_ofNat (Int.le_of_lt negative)
    refine ⟨Nat.pow_pos (by decide), ?_⟩
    simp
  next nonnegative =>
    obtain ⟨k, rfl⟩ := Int.eq_ofNat_of_zero_le (Int.not_lt.mp nonnegative)
    refine ⟨Nat.one_pos, ?_⟩
    simp

theorem le_high_of_contains {i : Interval} {num den : Nat} (inside : i.contains num den = true) :
    num * quarters ≤ i.high * den := by
  unfold contains at inside
  simp only at inside
  split at inside
  · simp only [Bool.and_eq_true, decide_eq_true_eq] at inside
    exact inside.2
  · simp only [Bool.and_eq_true, decide_eq_true_eq] at inside
    exact Nat.le_of_lt inside.2

/-- A grid point that is chosen lies in the interval. -/
theorem contains_of_nearestOn {i : Interval} {exponent : Int} {d : Decimal}
    (chosen : i.nearestOn exponent = some d) :
    d.exponent = exponent ∧
      i.contains (d.digits * (grid exponent).1) (grid exponent).2 = true := by
  unfold nearestOn at chosen
  simp only [Bool.and_eq_true] at chosen
  split at chosen
  next both =>
    split at chosen
    · cases chosen
      exact ⟨rfl, both.1⟩
    · split at chosen
      · cases chosen
        exact ⟨rfl, both.2⟩
      · split at chosen
        · cases chosen
          exact ⟨rfl, both.1⟩
        · cases chosen
          exact ⟨rfl, both.2⟩
  next =>
    split at chosen
    next below =>
      cases chosen
      exact ⟨rfl, below⟩
    next =>
      split at chosen
      next above =>
        cases chosen
        exact ⟨rfl, above⟩
      next => cases chosen

theorem le_high_of_nearestOn {i : Interval} {exponent : Int} {d : Decimal}
    (chosen : i.nearestOn exponent = some d) : d.value * quarters ≤ i.high := by
  obtain ⟨positive, same⟩ := grid_eq exponent
  obtain ⟨rfl, inside⟩ := contains_of_nearestOn chosen
  have bound := le_high_of_contains inside
  have bound' : (d.digits * (grid d.exponent).1 * quarters : ℚ) ≤ i.high * (grid d.exponent).2 := by
    exact_mod_cast bound
  rw [same] at bound'
  have den : (0 : ℚ) < (grid d.exponent).2 := by exact_mod_cast positive
  refine le_of_mul_le_mul_right ?_ den
  calc d.value * quarters * (grid d.exponent).2
      = d.digits * (10 ^ d.exponent * (grid d.exponent).2) * quarters := by
        rw [Decimal.value]
        ring
    _ ≤ i.high * (grid d.exponent).2 := bound'

theorem of_firstGrid {i : Interval} {exponent : Int} {count : Nat} {d : Decimal}
    (chosen : i.firstGrid exponent count = some d) :
    0 < d.digits ∧ d.value * quarters ≤ i.high := by
  induction count generalizing exponent with
  | zero => cases chosen
  | succ count ih =>
    rw [firstGrid] at chosen
    split at chosen
    next found =>
      split at chosen
      next => exact ih chosen
      next some =>
        cases chosen
        exact ⟨Nat.pos_of_ne_zero some, le_high_of_nearestOn found⟩
    next => exact ih chosen

end Interval

/-- A double other than zero is written by a decimal of its interval. -/
theorem shortest_cases (x : Binary64) :
    x.shortest = ⟨0, 0⟩ ∨
      0 < x.shortest.digits ∧ x.shortest.value * quarters ≤ x.interval.high := by
  unfold shortest
  split
  · exact .inl rfl
  · split
    next d found =>
      -- Zeros at the end are cut off, which changes neither the value nor whether it is zero.
      obtain ⟨positive, bound⟩ := Interval.of_firstGrid found
      rw [← Decimal.value_pos_iff, Decimal.value_trim, Decimal.value_pos_iff]
      exact .inr ⟨positive, bound⟩
    next => exact .inl rfl

/-- The greater the bits, the farther the interval reaches. -/
theorem high_mono {x y : Binary64} (order : x.bits ≤ y.bits) :
    x.interval.high ≤ y.interval.high := by
  have high (z : Binary64) : z.interval.high = 4 * z.ratio.1 + 2 * 2 ^ z.scale := by
    simp only [interval, ratio, Nat.shiftLeft_eq]
    ring
  rw [high, high]
  exact Nat.add_le_add (Nat.mul_le_mul_left 4 (magnitude_mono order))
    (Nat.mul_le_mul_left 2 (Nat.pow_le_pow_right (by decide) (scale_mono order)))

end Binary64

end Outbox.Number

namespace Outbox.Json

open Outbox.Number Binary64

/-! ## Reading back -/

theorem quarters_pos : (0 : ℚ) < quarters := by
  rw [quarters, Nat.shiftLeft_eq, Nat.cast_pos]
  positivity

theorem infinityBits_pred_lt : infinityBits - 1 < infinityBits := by decide

/-- The greatest finite double. -/
def greatest (negative : Bool) : Binary64 :=
  ⟨negative, ⟨infinityBits - 1, infinityBits_pred_lt⟩⟩

theorem shortest_greatest (negative : Bool) :
    (greatest negative).shortest = ⟨17976931348623157, 292⟩ := by
  cases negative <;> decide +kernel

theorem high_of_ne_greatest {x : Binary64} (less : x ≠ greatest x.negative) :
    x.interval.high ≤ upperEnd * quarters := by
  have top : (⟨false, ⟨infinityBits - 2, by decide⟩⟩ : Binary64).interval.high =
      upperEnd * quarters := by decide +kernel
  rw [← top]
  refine high_mono (Nat.le_of_lt_succ (Nat.lt_of_le_of_ne (Nat.le_pred_of_lt x.bits.isLt) ?_))
  intro same
  refine less ?_
  rcases x with ⟨negative, bits⟩
  exact congrArg (Binary64.mk negative) (Fin.ext same)

theorem high_lt (x : Binary64) : x.interval.high < 10 ^ 309 * quarters := by
  have top : (greatest false).interval.high < 10 ^ 309 * quarters := by decide +kernel
  exact Nat.lt_of_le_of_lt (high_mono (Nat.le_pred_of_lt x.bits.isLt)) top

section Upwards

variable {x : Binary64} (positive : 0 < x.shortest.digits)

include positive

theorem shortest_value_le : x.shortest.value * quarters ≤ x.interval.high := by
  rcases x.shortest_cases with zero | ⟨-, bound⟩
  · rw [zero] at positive
    cases positive
  · exact bound

/-- The leading digit of a double is in the range of powers. -/
theorem lead_le : x.shortest.lead ≤ maxPower := by
  have bound := shortest_value_le positive
  have high : (x.interval.high : ℚ) < 10 ^ 309 * quarters := by exact_mod_cast high_lt x
  have below : x.shortest.value < 10 ^ (309 : ℤ) :=
    lt_of_mul_lt_mul_right (lt_of_le_of_lt bound high) (le_of_lt quarters_pos)
  generalize x.shortest = d at *
  -- With its leading digit alone a decimal of so many digits is at least this power of ten.
  have some : 0 < (Nat.toDigits 10 d.digits).length := List.length_pos_iff.mpr Nat.toDigits_ne_nil
  obtain ⟨n, length⟩ := Nat.exists_eq_add_of_le' some
  have lead : 10 ^ n ≤ d.digits := by
    by_contra less
    rcases Nat.eq_zero_or_pos n with rfl | several
    · omega
    · have := (Nat.length_toDigits_le_iff (b := 10) (by decide) several).mpr (Nat.not_le.mp less)
      omega
  have power : (10 : ℚ) ^ (d.exponent + n) < 10 ^ (309 : ℤ) := by
    refine lt_of_le_of_lt ?_ below
    rw [Decimal.value, zpow_add₀ (by norm_num), zpow_natCast, mul_comm]
    exact mul_le_mul_of_nonneg_right (by exact_mod_cast lead) (by positivity)
  have less := (zpow_lt_zpow_iff_right₀ (by norm_num : (1 : ℚ) < 10)).mp power
  have limit : maxPower = 308 := rfl
  rw [Decimal.lead, length, limit]
  push_cast
  omega

theorem gathered_shortest_le {power : Nat}
    (exponent : x.shortest.exponent +
      (gathered 0 (Nat.toDigits 10 x.shortest.digits)).2 = power)
    (less : x ≠ greatest x.negative) :
    (gathered 0 (Nat.toDigits 10 x.shortest.digits)).1 * 10 ^ power ≤ upperEnd := by
  have bound : x.shortest.value * quarters ≤ upperEnd * quarters :=
    le_trans (shortest_value_le positive) (by exact_mod_cast high_of_ne_greatest less)
  have part := gathered_mul_pow_le 0 (Nat.toDigits 10 x.shortest.digits)
  rw [show valueOf (Nat.toDigits 10 x.shortest.digits) 0 = x.shortest.digits from
    Nat.ofDigitChars_ten_toDigits] at part
  generalize gathered 0 (Nat.toDigits 10 x.shortest.digits) = g at *
  generalize x.shortest = d at *
  have part' : (g.1 * 10 ^ g.2 : ℚ) ≤ d.digits := by exact_mod_cast part
  have value : (g.1 * 10 ^ power : ℚ) ≤ upperEnd := by
    refine le_of_mul_le_mul_right ?_ quarters_pos
    refine le_trans (mul_le_mul_of_nonneg_right ?_ (le_of_lt quarters_pos)) bound
    calc (g.1 * 10 ^ power : ℚ) = g.1 * 10 ^ g.2 * 10 ^ d.exponent := by
          rw [← zpow_natCast, ← exponent, zpow_add₀ (by norm_num), zpow_natCast]
          ring
      _ ≤ d.digits * 10 ^ d.exponent := mul_le_mul_of_nonneg_right part' (by positivity)
  exact_mod_cast value

/-- A gathered significand is scaled up by no more than the leading digit counts. -/
theorem power_le_maxPower {power : Nat}
    (exponent : x.shortest.exponent +
      (gathered 0 (Nat.toDigits 10 x.shortest.digits)).2 = power) : power ≤ maxPower := by
  have limit := lead_le positive
  -- The first digit is always gathered, so one digit less than there are can be passed over.
  obtain ⟨c, cs, digits, digit⟩ := toDigits_starts x.shortest.digits
  have skipped := gathered_skipped_le (c.toNat - '0'.toNat) cs
  rw [← gathered_zero_cons digit, ← digits] at skipped
  rw [Decimal.lead, digits, List.length_cons] at limit
  push_cast at limit
  omega

/-- The digits of a double are read, whatever is gathered of them. -/
theorem realOfParts_shortest (negative : Bool) :
    ∃ y, realOfParts negative (gathered 0 (Nat.toDigits 10 x.shortest.digits)).1
      (x.shortest.exponent + (gathered 0 (Nat.toDigits 10 x.shortest.digits)).2) = .ok y := by
  have fits := gathered_le_maxSignificand (Nat.zero_le maxSignificand)
    (Nat.toDigits 10 x.shortest.digits)
  by_cases down :
      x.shortest.exponent + (gathered 0 (Nat.toDigits 10 x.shortest.digits)).2 ≤ (0 : Int)
  · exact realOfParts_of_nonpos negative fits down
  obtain ⟨power, exponent⟩ := Int.eq_ofNat_of_zero_le (Int.le_of_lt (Int.not_le.mp down))
  have range := power_le_maxPower positive exponent
  rw [exponent]
  refine realOfParts_of_product negative range ?_
  by_cases top : x = greatest x.negative
  · -- The interval of the greatest double reaches beyond the range, but its digits do not.
    have written : x.shortest = ⟨17976931348623157, 292⟩ := by rw [top, shortest_greatest]
    have all : gathered 0 (Nat.toDigits 10 17976931348623157) = (17976931348623157, 0) := by
      decide +kernel
    rw [written] at exponent ⊢
    rw [all] at exponent ⊢
    obtain rfl : power = 292 := by
      simp only [Nat.cast_zero, add_zero] at exponent
      exact_mod_cast exponent.symm
    decide +kernel
  · exact productBits_lt fits range (gathered_shortest_le positive exponent top)

end Upwards

/-! ## Layouts -/

/-- The digits of a numeral with an exponent have their point behind the first one. -/
def mantissa : List Char → List Char
  | [] => []
  | [d] => [d]
  | d :: rest => d :: '.' :: rest

theorem readNumeral_mantissa (negative : Bool) {digits : List Char}
    (each : ∀ c ∈ digits, c.isDigit = true)
    (nonempty : digits ≠ []) (tail : List Char) :
    readNumeral negative (mantissa digits ++ 'e' :: tail) =
      (readExponent negative (gathered 0 digits).1
        ((gathered 0 digits).2 - (digits.length - 1 : Nat)) tail).map
        fun (x, rest) => (.real x, rest) := by
  obtain ⟨c, cs, rfl⟩ := List.exists_cons_of_ne_nil nonempty
  have digit := each c List.mem_cons_self
  have behind : ∀ d ∈ cs, d.isDigit = true := fun d member => each d (List.mem_cons_of_mem _ member)
  have single : IsNumeral [c] (c.toNat - '0'.toNat) :=
    ⟨fun d member => List.mem_singleton.mp member ▸ digit, by simp,
      by simp [valueOf, Nat.ofDigitChars], fun more same => (List.cons.inj same).2.symm⟩
  have fits : c.toNat - '0'.toNat ≤ maxSignificand :=
    Nat.le_trans (Nat.le_of_lt (toNat_sub_of_isDigit digit)) (by decide)
  have stops : startsWithDigit ('e' :: tail) = false := rfl
  rw [gathered_zero_cons digit, List.length_cons, Nat.add_sub_cancel]
  cases cs with
  | nil => exact readNumeral_append single fits stops negative
  | cons d ds =>
    -- The digits behind the point are gathered as if the point were not there.
    have point : readNumeral negative ([c] ++ '.' :: (d :: ds ++ 'e' :: tail)) = _ :=
      readNumeral_append single fits rfl negative
    have fraction := readFraction_append behind (List.cons_ne_nil d ds) stops negative
      (c.toNat - '0'.toNat) 0
    refine point.trans ?_
    simp only [readBehind, fraction, readScale]
    congr 2

/-- A written double starts with a digit; its sign is written before. -/
theorem layout_starts (d : Decimal) :
    ∃ c cs, numberLayout.layout d = c :: cs ∧ c.isDigit = true := by
  obtain ⟨c, cs, digits, digit⟩ := toDigits_starts d.digits
  unfold DecimalLayout.layout
  simp only [digits]
  split
  · split
    · exact ⟨_, _, rfl, digit⟩
    · split
      · exact ⟨_, _, rfl, digit⟩
      · exact ⟨_, _, rfl, rfl⟩
  · cases cs with
    | nil => exact ⟨_, _, rfl, digit⟩
    | cons d ds => exact ⟨_, _, rfl, digit⟩

section Layouts

variable {rest : List Char} (ends : Ends rest) (negative : Bool)

include ends

/-- A numeral with a point and without an exponent is only scaled down. -/
theorem readNumeral_point {whole fraction : List Char} {n : Nat} (numeral : IsNumeral whole n)
    (fits : n ≤ maxSignificand) (each : ∀ c ∈ fraction, c.isDigit = true)
    (nonempty : fraction ≠ []) :
    ∃ x, readNumeral negative (whole ++ '.' :: (fraction ++ rest)) = .ok (.real x, rest) := by
  have bound := gathered_le_maxSignificand fits fraction
  have skipped := gathered_skipped_le n fraction
  obtain ⟨x, scaled⟩ := realOfParts_of_nonpos negative bound
    (show 0 - (fraction.length : Int) + (gathered n fraction).2 ≤ 0 by omega)
  refine ⟨x, ?_⟩
  rw [readNumeral_append numeral fits rfl]
  simp only [readBehind, readFraction_append each nonempty ends.startsWithDigit, ends.readScale,
    scaled, Except.map]

/-- A whole number ends in a point and a zero. -/
theorem readNumeral_whole {d : Decimal} (lead : d.lead ≤ 15) (whole : 0 ≤ d.exponent)
    (start : 0 < d.digits ∨ d.exponent = 0) :
    ∃ y, readNumeral negative (Nat.toDigits 10 d.digits ++ List.replicate d.exponent.toNat '0' ++
      ['.', '0'] ++ rest) = .ok (.real y, rest) := by
  have zeros : ∀ c ∈ List.replicate d.exponent.toNat '0', c.isDigit = true := by
    intro c member
    rw [List.eq_of_mem_replicate member]
    rfl
  have numeral : ∃ n,
      IsNumeral (Nat.toDigits 10 d.digits ++ List.replicate d.exponent.toNat '0') n := by
    rcases start with positive | none
    · exact ⟨_, (isNumeral_toDigits d.digits).append positive zeros⟩
    · rw [none, Int.toNat_zero, List.replicate_zero, List.append_nil]
      exact ⟨_, isNumeral_toDigits d.digits⟩
  obtain ⟨n, numeral⟩ := numeral
  -- The leading digit is at most the sixteenth before the point.
  have fits := numeral.fits (by
    rw [List.length_append, List.length_replicate]
    unfold Decimal.lead at lead
    omega)
  rw [List.append_assoc _ _ rest]
  have zero : ∀ c ∈ ['0'], c.isDigit = true := List.forall_mem_singleton.mpr rfl
  exact readNumeral_point ends negative numeral fits zero (by decide)

/-- The point stands among the digits. -/
theorem readNumeral_split {d : Decimal} (low : 0 ≤ d.lead) (lead : d.lead ≤ 15)
    (fraction : d.exponent < 0) :
    ∃ y, readNumeral negative ((Nat.toDigits 10 d.digits).take (d.lead.toNat + 1) ++
      '.' :: (Nat.toDigits 10 d.digits).drop (d.lead.toNat + 1) ++ rest) = .ok (.real y, rest) := by
  have numeral := isNumeral_toDigits d.digits
  have fits := (numeral.take d.lead.toNat).fits (by
    rw [List.length_take]
    omega)
  have behind : (Nat.toDigits 10 d.digits).drop (d.lead.toNat + 1) ≠ [] := by
    rw [ne_eq, List.drop_eq_nil_iff]
    unfold Decimal.lead at low ⊢
    omega
  rw [List.append_assoc]
  exact readNumeral_point ends negative (numeral.take _) fits
    (fun c member => numeral.each c (List.mem_of_mem_drop member)) behind

/-- The point stands before the digits. -/
theorem readNumeral_small {d : Decimal} (zeros : Nat) :
    ∃ y, readNumeral negative ('0' :: '.' :: List.replicate zeros '0' ++
      Nat.toDigits 10 d.digits ++ rest) = .ok (.real y, rest) := by
  have each : ∀ c ∈ List.replicate zeros '0' ++ Nat.toDigits 10 d.digits, c.isDigit = true := by
    intro c member
    rcases List.mem_append.mp member with zero | digit
    · exact List.eq_of_mem_replicate zero ▸ rfl
    · exact isDigit_of_mem_toDigits digit
  have zero : IsNumeral ['0'] 0 := isNumeral_toDigits 0
  exact readNumeral_point ends negative zero (by decide) each (by simp [Nat.toDigits_ne_nil])

/-- Outside of the positional range there is an exponent. -/
theorem readNumeral_scientific {x : Binary64} (positive : 0 < x.shortest.digits) :
    ∃ y, readNumeral negative (mantissa (Nat.toDigits 10 x.shortest.digits) ++
      (if x.shortest.lead < 0 then ['e', '-'] else ['e', '+']) ++
      Nat.toDigits 10 x.shortest.lead.natAbs ++ rest) = .ok (.real y, rest) := by
  have digits := isNumeral_toDigits x.shortest.digits
  have power := isNumeral_toDigits x.shortest.lead.natAbs
  have length : 1 ≤ (Nat.toDigits 10 x.shortest.digits).length :=
    List.length_pos_iff.mpr digits.nonempty
  have limit := lead_le positive
  obtain ⟨y, scaled⟩ := realOfParts_shortest positive negative
  -- The digits behind the first one and the exponent make up for each other.
  have exponent : ((gathered 0 (Nat.toDigits 10 x.shortest.digits)).2 : Int) -
      ((Nat.toDigits 10 x.shortest.digits).length - 1 : Nat) + x.shortest.lead =
      x.shortest.exponent + (gathered 0 (Nat.toDigits 10 x.shortest.digits)).2 := by
    unfold Decimal.lead
    omega
  rw [← exponent] at scaled
  split
  next negativeLead =>
    -- An exponent below zero may be too long to be read, and then the double is zero.
    have amount : -(x.shortest.lead.natAbs : Int) = x.shortest.lead := by omega
    rw [← amount, ← Int.sub_eq_add_neg, ← power.value] at scaled
    obtain ⟨z, read⟩ := readExponent_minus power.each power.nonempty ends.startsWithDigit negative
      _ ⟨y, scaled⟩
    refine ⟨z, ?_⟩
    rw [List.append_assoc, List.append_assoc]
    refine (readNumeral_mantissa negative digits.each digits.nonempty
      ('-' :: (Nat.toDigits 10 x.shortest.lead.natAbs ++ rest))).trans ?_
    rw [read]
    rfl
  next upward =>
    have amount : (x.shortest.lead.natAbs : Int) = x.shortest.lead := by omega
    rw [← amount, ← power.value] at scaled
    have range : valueOf (Nat.toDigits 10 x.shortest.lead.natAbs) 0 ≤ maxExponent := by
      have top : maxPower ≤ maxExponent := by decide
      rw [power.value]
      omega
    refine ⟨y, ?_⟩
    rw [List.append_assoc, List.append_assoc]
    refine (readNumeral_mantissa negative digits.each digits.nonempty
      ('+' :: (Nat.toDigits 10 x.shortest.lead.natAbs ++ rest))).trans ?_
    rw [readExponent_plus power.each power.nonempty ends.startsWithDigit negative _ range, scaled]
    rfl

/-- A written double is read as a double. -/
theorem readNumeral_double (x : Binary64) :
    ∃ y, readNumeral negative (numberLayout.layout x.shortest ++ rest) = .ok (.real y, rest) := by
  have layout : numberLayout.layout x.shortest =
      if -5 ≤ x.shortest.lead ∧ x.shortest.lead ≤ 15 then _ else _ := rfl
  rw [layout]
  split
  next inside =>
    split
    next whole =>
      refine readNumeral_whole ends negative inside.2 whole ?_
      rcases x.shortest_cases with zero | ⟨positive, -⟩
      · exact .inr (zero ▸ rfl)
      · exact .inl positive
    next fraction =>
      split
      next low => exact readNumeral_split ends negative low inside.2 (Int.not_le.mp fraction)
      next => exact readNumeral_small ends negative _
  next outside =>
    rcases x.shortest_cases with zero | ⟨positive, -⟩
    · rw [zero] at outside
      exact absurd (by decide) outside
    · exact readNumeral_scientific ends negative positive

end Layouts

end Outbox.Json
