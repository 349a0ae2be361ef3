import Outbox.Proofs.Numerals
import Outbox.Proofs.Rounding

/-!
# Numerals in the range of doubles

A numeral is a significand that is scaled by a power of ten, with a rounding of the significand, of
the power and of the result. Scaling down never overflows. Scaling up could, by the roundings alone,
but not while the exact value stays below the greatest finite double.
-/
namespace Outbox.Json

open Outbox.Number Binary64

/-! ## Powers of ten -/

/-- Scaling is by at most this power of ten at once. -/
def maxPower : Nat := 308

/-- The greatest power of ten in the range of doubles. -/
def greatestPower : Nat := 10 ^ maxPower

theorem pow_le_greatestPower {k : Nat} (bound : k ≤ maxPower) : 10 ^ k ≤ greatestPower := by
  unfold greatestPower
  exact Nat.pow_le_pow_right (by decide) bound

/-- The double that scaling starts from. -/
def scaleStart (significand : Nat) : Binary64 := (Binary64.ofNat? significand).getD .zero

theorem bits_scaleStart {n : Nat} (bound : n ≤ greatestPower) :
    (scaleStart n).bits.val = nearestBits n 1 := by
  -- No integer up to the greatest power of ten overflows.
  have order : nearestBits n 1 ≤ nearestBits greatestPower 1 :=
    nearestBits_mono Nat.one_pos Nat.one_pos (Nat.mul_le_mul_right 1 bound)
  have finite : nearestBits greatestPower 1 < infinityBits := by decide +kernel
  have some : Binary64.ofNat? n = some ⟨false, _⟩ := dif_pos (Nat.lt_of_le_of_lt order finite)
  rw [scaleStart, some]
  rfl

theorem scaleStart_mono {m n : Nat} (order : m ≤ n) (bound : n ≤ greatestPower) :
    (scaleStart m).bits ≤ (scaleStart n).bits := by
  rw [Fin.le_def, bits_scaleStart (Nat.le_trans order bound), bits_scaleStart bound]
  exact nearestBits_mono Nat.one_pos Nat.one_pos (Nat.mul_le_mul_right 1 order)

theorem maxSignificand_le : maxSignificand ≤ greatestPower := by decide +kernel

theorem powerOfTen_mono {j k : Nat} (order : j ≤ k) (bound : k ≤ maxPower) :
    (powerOfTen j).bits ≤ (powerOfTen k).bits :=
  scaleStart_mono (Nat.pow_le_pow_right (by decide) order) (pow_le_greatestPower bound)

/-- The double above all significands. -/
def twoPow64 : Binary64 := ⟨false, ⟨(1023 + 64) * hiddenBit, by decide⟩⟩

theorem scaleStart_le {n : Nat} (bound : n ≤ maxSignificand) :
    (scaleStart n).bits ≤ twoPow64.bits :=
  Nat.le_trans (scaleStart_mono bound maxSignificand_le) (by decide +kernel)

/-! ## Scaling -/

/-- What is to be known of the unit in which all doubles count. -/
structure IsUnit (unit : Nat) : Prop where
  positive : 0 < unit
  denominator : ∀ x : Binary64, x.ratio.2 = unit
  one : (powerOfTen 0).ratio.1 = unit
  top : nearestBits twoPow64.ratio.1 unit = twoPow64.bits

theorem exists_isUnit : ∃ unit, IsUnit unit :=
  ⟨1 <<< 1074, by decide +kernel, fun _ => rfl, by decide +kernel, by decide +kernel⟩

theorem ofRatio?_of_le {negative : Bool} {num den : Nat} {y : Binary64}
    (order : nearestBits num den ≤ y.bits) :
    ∃ z, ofRatio? negative num den = some z ∧ z.bits ≤ y.bits :=
  ⟨_, dif_pos (Nat.lt_of_le_of_lt order y.bits.isLt), order⟩

/-- Division by a power of ten stays in range. -/
theorem div?_powerOfTen {x : Binary64} (small : x.bits ≤ twoPow64.bits) {k : Nat}
    (bound : k ≤ maxPower) :
    ∃ y, x.div? (powerOfTen k) = some y ∧ y.bits ≤ twoPow64.bits := by
  obtain ⟨unit, h⟩ := exists_isUnit
  have numerator := magnitude_mono small
  -- A power of ten is at least one.
  have one : unit ≤ (powerOfTen k).ratio.1 :=
    h.one ▸ magnitude_mono (powerOfTen_mono (Nat.zero_le k) bound)
  -- The quotient stays below the dividend, which is bounded by a double that is its own rounding.
  rw [div?, h.denominator, h.denominator]
  refine ofRatio?_of_le ?_
  rw [← h.top]
  refine nearestBits_mono (Nat.mul_pos h.positive (Nat.lt_of_lt_of_le h.positive one)) h.positive ?_
  calc x.ratio.1 * unit * unit ≤ twoPow64.ratio.1 * unit * (powerOfTen k).ratio.1 :=
        Nat.mul_le_mul (Nat.mul_le_mul_right _ numerator) one
    _ = twoPow64.ratio.1 * (unit * (powerOfTen k).ratio.1) := Nat.mul_assoc _ _ _

/-- So does a product with one. -/
theorem mul?_powerOfTen_zero {x : Binary64} (small : x.bits ≤ twoPow64.bits) :
    ∃ y, x.mul? (powerOfTen 0) = some y ∧ y.bits ≤ twoPow64.bits := by
  obtain ⟨unit, h⟩ := exists_isUnit
  have numerator := magnitude_mono small
  rw [mul?, h.denominator, h.denominator, h.one]
  refine ofRatio?_of_le ?_
  rw [← h.top]
  refine nearestBits_mono (Nat.mul_pos h.positive h.positive) h.positive ?_
  rw [Nat.mul_assoc]
  exact Nat.mul_le_mul_right _ numerator

theorem scaleByTen_up {x y : Binary64} {exponent : Int} (range : exponent.natAbs ≤ 308)
    (nonneg : 0 ≤ exponent) (product : x.mul? (powerOfTen exponent.natAbs) = some y) (fuel : Nat) :
    scaleByTen x exponent (fuel + 1) = .ok y := by
  rw [scaleByTen, if_pos range]
  simp only [if_pos nonneg, product]

theorem scaleByTen_down {x y : Binary64} {exponent : Int} (range : exponent.natAbs ≤ 308)
    (down : ¬ 0 ≤ exponent) (quotient : x.div? (powerOfTen exponent.natAbs) = some y)
    (fuel : Nat) : scaleByTen x exponent (fuel + 1) = .ok y := by
  rw [scaleByTen, if_pos range]
  simp only [if_neg down, quotient]

theorem scaleByTen_of_nonpos {x : Binary64} (small : x.bits ≤ twoPow64.bits) {exponent : Int}
    (nonpos : exponent ≤ 0) (fuel : Nat) : ∃ y, scaleByTen x exponent fuel = .ok y := by
  induction fuel generalizing x exponent with
  | zero => exact ⟨x, rfl⟩
  | succ fuel ih =>
    by_cases range : exponent.natAbs ≤ 308
    · by_cases nonneg : 0 ≤ exponent
      · obtain ⟨y, product, -⟩ := mul?_powerOfTen_zero small
        have zero : exponent.natAbs = 0 := by omega
        exact ⟨y, scaleByTen_up range nonneg (zero ▸ product) fuel⟩
      · obtain ⟨y, quotient, -⟩ := div?_powerOfTen small range
        exact ⟨y, scaleByTen_down range nonneg quotient fuel⟩
    · -- One more step down; what is zero by then stays zero.
      obtain ⟨y, quotient, less⟩ := div?_powerOfTen small (Nat.le_refl 308)
      have down : ¬ 0 ≤ exponent := by omega
      rw [scaleByTen, if_neg range, if_neg down, quotient]
      split
      · exact ⟨x, rfl⟩
      · exact ih less (by omega)

theorem realOfParts_of_scaled {negative : Bool} {significand : Nat} {exponent : Int} {y : Binary64}
    (scaled : scaleByTen (scaleStart significand)
      (if exponent < -1200 then -1200 else exponent) 5 = .ok y) :
    realOfParts negative significand exponent = .ok (if negative then y.neg else y) := by
  change (scaleByTen (scaleStart significand) _ 5 >>= fun x => pure _) = _
  rw [scaled]
  rfl

/-- Nothing overflows that is scaled down. -/
theorem realOfParts_of_nonpos (negative : Bool) {significand : Nat}
    (bound : significand ≤ maxSignificand) {exponent : Int} (nonpos : exponent ≤ 0) :
    ∃ x, realOfParts negative significand exponent = .ok x := by
  have nonpos' : (if exponent < -1200 then -1200 else exponent) ≤ 0 := by split <;> omega
  obtain ⟨y, scaled⟩ := scaleByTen_of_nonpos (scaleStart_le bound) nonpos' 5
  exact ⟨_, realOfParts_of_scaled scaled⟩

/-- The bits of a significand that is scaled up. -/
def productBits (significand power : Nat) : Nat :=
  nearestBits ((scaleStart significand).ratio.1 * (powerOfTen power).ratio.1)
    ((scaleStart significand).ratio.2 * (powerOfTen power).ratio.2)

theorem productBits_mono {m n j k : Nat} (order : m ≤ n) (bound : n ≤ maxSignificand)
    (powers : j ≤ k) (range : k ≤ maxPower) : productBits m j ≤ productBits n k := by
  obtain ⟨unit, h⟩ := exists_isUnit
  have area := Nat.mul_pos h.positive h.positive
  unfold productBits
  simp only [h.denominator]
  refine nearestBits_mono area area (Nat.mul_le_mul_right _ (Nat.mul_le_mul ?_ ?_))
  · exact magnitude_mono (scaleStart_mono order (Nat.le_trans bound maxSignificand_le))
  · exact magnitude_mono (powerOfTen_mono powers range)

/-- A significand that is scaled up is read unless the product overflows. -/
theorem realOfParts_of_product (negative : Bool) {significand power : Nat}
    (range : power ≤ maxPower)
    (finite : productBits significand power < infinityBits) :
    ∃ x, realOfParts negative significand power = .ok x := by
  -- The lower bound of exponents is of no concern above zero.
  have up : (if (power : Int) < -1200 then -1200 else (power : Int)) = power := if_neg (by omega)
  obtain ⟨y, product⟩ : ∃ y, (scaleStart significand).mul? (powerOfTen power) = some y :=
    ⟨_, dif_pos finite⟩
  have scaled : scaleByTen (scaleStart significand) (power : Int) 5 = .ok y :=
    scaleByTen_up (by rwa [Int.natAbs_natCast]) (Int.natCast_nonneg power)
      (by rwa [Int.natAbs_natCast]) 4
  exact ⟨_, realOfParts_of_scaled (up.symm ▸ scaled)⟩

/-! ## The upper end of the range -/

/-- The greatest double below the greatest finite one stands for reals up to here. -/
def upperEnd : Nat := (2 ^ 54 - 3) * 2 ^ 970

/-- The roundings do not carry a value over the end of the range that is not there already. Below
the last twenty powers of ten this holds for all significands, and for each of these powers for the
greatest significand that fits. -/
theorem productBits_lt {significand power : Nat} (bound : significand ≤ maxSignificand)
    (range : power ≤ maxPower) (value : significand * 10 ^ power ≤ upperEnd) :
    productBits significand power < infinityBits := by
  by_cases low : power ≤ 288
  · have all : productBits maxSignificand 288 < infinityBits := by decide +kernel
    exact Nat.lt_of_le_of_lt (productBits_mono bound (Nat.le_refl _) low (by decide)) all
  · -- For one power the greatest significand that the value allows decides, by monotony.
    have each : ∀ i ≤ 20, productBits (min maxSignificand (upperEnd / 10 ^ (288 + i))) (288 + i) <
        infinityBits := by decide +kernel
    have above : maxPower = 308 := rfl
    obtain ⟨i, rfl⟩ := Nat.exists_eq_add_of_lt (Nat.lt_of_not_le low)
    have fits : significand ≤ min maxSignificand (upperEnd / 10 ^ (288 + (i + 1))) :=
      Nat.le_min.mpr ⟨bound, (Nat.le_div_iff_mul_le (Nat.pow_pos (by decide))).mpr value⟩
    exact Nat.lt_of_le_of_lt (productBits_mono fits (Nat.min_le_left _ _) (Nat.le_refl _) range)
      (each (i + 1) (by omega))

end Outbox.Json
