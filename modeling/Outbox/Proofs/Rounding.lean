import Mathlib.Data.Nat.Log
import Mathlib.Tactic.Linarith
import Mathlib.Tactic.Ring
import Outbox.Number.Binary64

/-!
# Rounding keeps the order

A greater ratio never rounds to a smaller double. The bits of an absolute value grow with it, so
whether a computation overflows is decided by its largest operands.
-/
namespace Outbox.Number.Binary64

/-! ## Quotients -/

section Quotients

variable {num den num' den' k : Nat}

/-- A rounded quotient is too small by one half at most, and by one half only when it is even. -/
theorem divNearest_upper (num : Nat) (positive : 0 < den) :
    2 * num ≤ (2 * divNearest num den + 1) * den ∧
      (2 * num = (2 * divNearest num den + 1) * den → divNearest num den % 2 = 0) := by
  have split := Nat.div_add_mod num den
  have below := Nat.mod_lt num positive
  unfold divNearest
  simp only
  generalize num / den = q at *
  generalize num % den = r at *
  -- The remainder is below one half, at it, or above it.
  split_ifs with small tie
  · constructor <;> intros <;> nlinarith
  · have even : (q + q % 2) % 2 = 0 := by omega
    refine ⟨?_, fun _ => even⟩
    nlinarith [Nat.zero_le (q % 2 * den)]
  · constructor <;> intros <;> nlinarith

/-- It is too large by one half at most, and by one half only when it is even. -/
theorem divNearest_lower (num : Nat) (positive : 0 < den) :
    2 * divNearest num den * den ≤ 2 * num + den ∧
      (2 * divNearest num den * den = 2 * num + den → divNearest num den % 2 = 0) := by
  have split := Nat.div_add_mod num den
  have below := Nat.mod_lt num positive
  unfold divNearest
  simp only
  generalize num / den = q at *
  generalize num % den = r at *
  split_ifs with small tie
  · constructor <;> intros <;> nlinarith
  · have even : (q + q % 2) % 2 = 0 := by omega
    have bound : q % 2 * den ≤ 1 * den := Nat.mul_le_mul_right _ (by omega)
    refine ⟨?_, fun _ => even⟩
    nlinarith
  · refine ⟨by nlinarith, fun same => absurd same (Nat.ne_of_lt ?_)⟩
    have above : den < 2 * r := by omega
    nlinarith

theorem divNearest_mono (positive : 0 < den) (positive' : 0 < den')
    (order : num * den' ≤ num' * den) : divNearest num den ≤ divNearest num' den' := by
  -- Only what is known of the distances to the exact quotients is used from here on.
  obtain ⟨lower, lowerTie⟩ := divNearest_lower num positive
  obtain ⟨upper, upperTie⟩ := divNearest_upper num' positive'
  generalize divNearest num den = r at *
  generalize divNearest num' den' = r' at *
  by_contra less
  -- The distance is one, so both are ties, and both would have to be even.
  have low : 2 * r * den * den' ≤ (2 * num + den) * den' := Nat.mul_le_mul_right _ lower
  have high : 2 * num' * den ≤ (2 * r' + 1) * den' * den := Nat.mul_le_mul_right _ upper
  have area : 0 < den * den' := Nat.mul_pos positive positive'
  have next : r = r' + 1 := by
    have close : r * (den * den') ≤ (r' + 1) * (den * den') := by nlinarith
    have := Nat.le_of_mul_le_mul_right close area
    omega
  subst next
  have lowerEq : 2 * (r' + 1) * den = 2 * num + den := by
    refine Nat.eq_of_mul_eq_mul_right positive' (Nat.le_antisymm low ?_)
    nlinarith
  have upperEq : 2 * num' = (2 * r' + 1) * den' := by
    refine Nat.eq_of_mul_eq_mul_right positive (Nat.le_antisymm high ?_)
    nlinarith
  have even := lowerTie lowerEq
  have even' := upperTie upperEq
  omega

@[simp] theorem divNearest_one (k : Nat) : divNearest k 1 = k := by
  simp [divNearest, Nat.mod_one]

theorem divNearest_le (positive : 0 < den) (bound : num ≤ k * den) : divNearest num den ≤ k := by
  rw [← divNearest_one k]
  refine divNearest_mono positive Nat.one_pos ?_
  rwa [Nat.mul_one]

theorem le_divNearest (positive : 0 < den) (bound : k * den ≤ num) : k ≤ divNearest num den := by
  rw [← divNearest_one k]
  refine divNearest_mono Nat.one_pos positive ?_
  rwa [Nat.mul_one]

end Quotients

/-! ## Ratios -/

section Ratios

variable {num den num' den' : Nat}

/-- All ratios are counted in the same unit; how small it is does not matter here. -/
theorem exists_unit : ∃ unit : Nat, ∀ n : Nat, n <<< 1074 = n * unit :=
  ⟨_, fun n => Nat.shiftLeft_eq n 1074⟩

/-- The power of two at which a ratio is rounded. -/
theorem lt_two_pow_scale (num : Nat) (positive : 0 < den) :
    num <<< 1074 < 2 ^ 53 * (den <<< (leadingBit num den - 52)) := by
  have lead : num <<< 1074 / den < 2 ^ (leadingBit num den + 1) :=
    Nat.lt_of_lt_of_le Nat.lt_log2_self
      (Nat.pow_le_pow_right (by decide) (Nat.succ_le_succ (Nat.le_max_right _ _)))
  have least : 52 ≤ leadingBit num den := Nat.le_max_left _ _
  have exponent : leadingBit num den + 1 = 53 + (leadingBit num den - 52) := by omega
  rw [Nat.div_lt_iff_lt_mul positive, exponent, pow_add] at lead
  rw [Nat.shiftLeft_eq den, Nat.mul_comm den, ← Nat.mul_assoc]
  exact lead

theorem two_pow_scale_le (num : Nat) (positive : 0 < den) (normal : 0 < leadingBit num den - 52) :
    2 ^ 52 * (den <<< (leadingBit num den - 52)) ≤ num <<< 1074 := by
  have lead : leadingBit num den = Nat.log2 (num <<< 1074 / den) := by
    unfold leadingBit at *
    omega
  have nonzero : num <<< 1074 / den ≠ 0 := by
    intro zero
    rw [lead, zero] at normal
    exact absurd normal (by decide)
  have reach : 2 ^ leadingBit num den ≤ num <<< 1074 / den := by
    rw [lead]
    exact (Nat.le_log2 nonzero).mp (Nat.le_refl _)
  have exponent : leadingBit num den = 52 + (leadingBit num den - 52) := by omega
  rw [Nat.le_div_iff_mul_le positive, exponent, pow_add] at reach
  rw [Nat.shiftLeft_eq den, Nat.mul_comm den, ← Nat.mul_assoc]
  simpa using reach

theorem leadingBit_mono (positive : 0 < den) (positive' : 0 < den')
    (order : num * den' ≤ num' * den) : leadingBit num den ≤ leadingBit num' den' := by
  have quotients : num <<< 1074 / den ≤ num' <<< 1074 / den' := by
    rw [Nat.le_div_iff_mul_le positive']
    refine Nat.le_of_mul_le_mul_right ?_ positive
    have part := Nat.div_mul_le_self (num <<< 1074) den
    obtain ⟨unit, shift⟩ := exists_unit
    rw [shift] at part ⊢
    rw [shift]
    calc num * unit / den * den' * den
        = num * unit / den * den * den' := by ring
      _ ≤ num * unit * den' := Nat.mul_le_mul_right _ part
      _ = num * den' * unit := by ring
      _ ≤ num' * den * unit := Nat.mul_le_mul_right _ order
      _ = num' * unit * den := by ring
  have logs : Nat.log2 (num <<< 1074 / den) ≤ Nat.log2 (num' <<< 1074 / den') := by
    rw [Nat.log2_eq_log_two, Nat.log2_eq_log_two]
    exact Nat.log_mono_right quotients
  unfold leadingBit
  omega

/-- A greater ratio never rounds to a smaller double. -/
theorem nearestBits_mono (positive : 0 < den) (positive' : 0 < den')
    (order : num * den' ≤ num' * den) : nearestBits num den ≤ nearestBits num' den' := by
  have leads := leadingBit_mono positive positive' order
  have here : 0 < den <<< (leadingBit num den - 52) := by
    rw [Nat.shiftLeft_eq]
    positivity
  have there : 0 < den' <<< (leadingBit num' den' - 52) := by
    rw [Nat.shiftLeft_eq]
    positivity
  unfold nearestBits
  simp only
  rcases Nat.eq_or_lt_of_le leads with same | less
  · -- On one scale the significands are compared.
    rw [same] at here ⊢
    refine Nat.add_le_add_left (divNearest_mono here there ?_) _
    obtain ⟨unit, shift⟩ := exists_unit
    rw [shift, shift, Nat.shiftLeft_eq, Nat.shiftLeft_eq]
    generalize 2 ^ (leadingBit num' den' - 52) = scale
    calc num * unit * (den' * scale) = num * den' * (unit * scale) := by ring
      _ ≤ num' * den * (unit * scale) := Nat.mul_le_mul_right _ order
      _ = num' * unit * (den * scale) := by ring
  · -- A significand on a smaller scale reaches at most the next scale.
    have least : 52 ≤ leadingBit num den := Nat.le_max_left _ _
    have small := divNearest_le here (Nat.le_of_lt (lt_two_pow_scale num positive))
    have large := le_divNearest there (two_pow_scale_le num' positive' (by omega))
    have step : leadingBit num den - 52 + 1 ≤ leadingBit num' den' - 52 := by omega
    have unit : hiddenBit = 2 ^ 52 := rfl
    calc (leadingBit num den - 52) * hiddenBit + divNearest _ _
        ≤ (leadingBit num den - 52 + 1) * hiddenBit + 2 ^ 52 := by rw [unit] at *; omega
      _ ≤ (leadingBit num' den' - 52) * hiddenBit + divNearest _ _ :=
          Nat.add_le_add (Nat.mul_le_mul_right _ step) large

end Ratios

/-! ## Absolute values -/

section Magnitudes

variable {x y : Binary64}

theorem hiddenBit_pos : 0 < hiddenBit := by decide

theorem scale_mono (order : x.bits ≤ y.bits) : x.scale ≤ y.scale := by
  have bits : x.bits.val ≤ y.bits.val := order
  have quotients := Nat.div_le_div_right (c := hiddenBit) bits
  unfold scale
  split_ifs <;> omega

/-- A significand has at most 53 bits. -/
theorem significand_lt (x : Binary64) : x.significand < 2 * hiddenBit := by
  have below := Nat.mod_lt x.bits.val hiddenBit_pos
  unfold significand
  split_ifs <;> omega

/-- Above the lowest scale a significand has all of its 53 bits. -/
theorem hiddenBit_le_significand (normal : 0 < x.scale) : hiddenBit ≤ x.significand := by
  unfold scale at normal
  unfold significand
  split_ifs at normal ⊢
  · omega
  · omega

/-- The bits are the scale and the significand. -/
theorem bits_eq (x : Binary64) : x.bits.val = x.scale * hiddenBit + x.significand := by
  have split := Nat.div_add_mod x.bits.val hiddenBit
  unfold scale significand
  split_ifs with small
  · omega
  · have positive : 1 ≤ x.bits.val / hiddenBit :=
      (Nat.one_le_div_iff hiddenBit_pos).mpr (Nat.not_lt.mp small)
    obtain ⟨k, quotient⟩ := Nat.exists_eq_add_of_le positive
    rw [quotient, Nat.add_sub_cancel_left]
    rw [quotient, Nat.mul_add, Nat.mul_one, Nat.mul_comm hiddenBit k] at split
    omega

/-- The greater the bits, the greater the absolute value. -/
theorem magnitude_mono (order : x.bits ≤ y.bits) : x.ratio.1 ≤ y.ratio.1 := by
  have bits : x.bits.val ≤ y.bits.val := order
  simp only [ratio, Nat.shiftLeft_eq]
  rcases Nat.eq_or_lt_of_le (scale_mono order) with same | less
  · -- On one scale the bits differ by the significands only.
    rw [bits_eq x, bits_eq y, same] at bits
    rw [same]
    exact Nat.mul_le_mul_right _ (by omega)
  · calc x.significand * 2 ^ x.scale
        ≤ 2 * hiddenBit * 2 ^ x.scale := Nat.mul_le_mul_right _ (Nat.le_of_lt x.significand_lt)
      _ = hiddenBit * 2 ^ (x.scale + 1) := by ring
      _ ≤ hiddenBit * 2 ^ y.scale :=
          Nat.mul_le_mul_left _ (Nat.pow_le_pow_right (by decide) less)
      _ ≤ y.significand * 2 ^ y.scale :=
          Nat.mul_le_mul_right _ (hiddenBit_le_significand (by omega))

end Magnitudes

end Outbox.Number.Binary64
