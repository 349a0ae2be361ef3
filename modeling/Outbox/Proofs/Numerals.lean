import Mathlib.Tactic.Linarith
import Mathlib.Tactic.Ring
import Outbox.Json.Reader

/-!
# Numerals that are read

A run of digits is gathered into a significand as long as it fits; the digits behind are passed
over. So a numeral whose digits fit is read exactly, and of any other one the significand with the
digits passed over counts at most as much as was written.
-/
namespace Outbox.Json

open Outbox.Number

/-! ## Digits -/

theorem isDigit_iff {c : Char} : c.isDigit = true ↔ '0' ≤ c ∧ c ≤ '9' := by
  rw [Char.isDigit, Bool.and_eq_true, decide_eq_true_eq, decide_eq_true_eq]
  exact Iff.rfl

theorem digit?_of_isDigit {c : Char} (digit : c.isDigit = true) :
    digit? c = some (c.toNat - '0'.toNat) :=
  if_pos (isDigit_iff.mp digit)

theorem digit?_of_not_isDigit {c : Char} (other : c.isDigit = false) : digit? c = none := by
  refine if_neg fun inside => ?_
  rw [isDigit_iff.mpr inside] at other
  cases other

theorem isSome_digit? (c : Char) : (digit? c).isSome = c.isDigit := by
  cases digit : c.isDigit with
  | true => rw [digit?_of_isDigit digit]; rfl
  | false => rw [digit?_of_not_isDigit digit]; rfl

/-- Digits end where no digit follows. -/
theorem digit?_of_stops {c : Char} {rest : List Char}
    (stops : startsWithDigit (c :: rest) = false) :
    digit? c = none :=
  Option.isNone_iff_eq_none.mp (Option.isSome_eq_false_iff.mp stops)

theorem toNat_sub_of_isDigit {c : Char} (digit : c.isDigit = true) : c.toNat - '0'.toNat < 10 := by
  have bound : c.toNat ≤ '9'.toNat := (isDigit_iff.mp digit).2
  have nine : '9'.toNat = 57 := rfl
  have zero : '0'.toNat = 48 := rfl
  omega

/-- The value of digits that follow others. -/
abbrev valueOf (digits : List Char) (before : Nat) : Nat := Nat.ofDigitChars 10 digits before

theorem valueOf_cons (c : Char) (digits : List Char) (before : Nat) :
    valueOf (c :: digits) before = valueOf digits (before * 10 + (c.toNat - '0'.toNat)) := by
  rw [valueOf, Nat.ofDigitChars_cons, Nat.mul_comm]

/-- Every digit moves what is before it by one place. -/
theorem mul_pow_le_valueOf (digits : List Char) (before : Nat) :
    before * 10 ^ digits.length ≤ valueOf digits before := by
  induction digits generalizing before with
  | nil => simp [valueOf]
  | cons c digits ih =>
    rw [valueOf_cons, List.length_cons, pow_succ']
    refine Nat.le_trans ?_ (ih _)
    rw [← Nat.mul_assoc]
    exact Nat.mul_le_mul_right _ (Nat.le_add_right _ _)

theorem le_valueOf (digits : List Char) (before : Nat) : before ≤ valueOf digits before :=
  Nat.le_trans (Nat.le_mul_of_pos_right _ (Nat.pow_pos (by decide)))
    (mul_pow_le_valueOf digits before)

/-- Digits are worth less than a one that stands before all of them. -/
theorem valueOf_lt {digits : List Char} (each : ∀ c ∈ digits, c.isDigit = true) (before : Nat) :
    valueOf digits before < (before + 1) * 10 ^ digits.length := by
  induction digits generalizing before with
  | nil => simp [valueOf]
  | cons c digits ih =>
    have bound := toNat_sub_of_isDigit (each c List.mem_cons_self)
    rw [valueOf_cons, List.length_cons, pow_succ', ← Nat.mul_assoc]
    refine Nat.lt_of_lt_of_le (ih (fun d member => each d (List.mem_cons_of_mem _ member)) _) ?_
    exact Nat.mul_le_mul_right _ (by omega)

/-! ## Gathering -/

/-- What is gathered of a run of digits: the significand, and how many digits do not fit it. -/
def gathered (significand : Nat) : List Char → Nat × Nat
  | [] => (significand, 0)
  | c :: digits =>
    if maxSignificand < significand * 10 + (c.toNat - '0'.toNat) then
      (significand, digits.length + 1)
    else gathered (significand * 10 + (c.toNat - '0'.toNat)) digits

theorem gathered_of_fits {digits : List Char} {significand : Nat}
    (fits : valueOf digits significand ≤ maxSignificand) :
    gathered significand digits = (valueOf digits significand, 0) := by
  induction digits generalizing significand with
  | nil => rfl
  | cons c digits ih =>
    rw [valueOf_cons] at fits ⊢
    have first := Nat.le_trans (le_valueOf digits _) fits
    rw [gathered, if_neg (Nat.not_lt.mpr first)]
    exact ih fits

theorem gathered_le_maxSignificand {significand : Nat} (bound : significand ≤ maxSignificand)
    (digits : List Char) : (gathered significand digits).1 ≤ maxSignificand := by
  induction digits generalizing significand with
  | nil => exact bound
  | cons c digits ih =>
    rw [gathered]
    split
    next => exact bound
    next fits => exact ih (Nat.not_lt.mp fits)

theorem gathered_skipped_le (significand : Nat) (digits : List Char) :
    (gathered significand digits).2 ≤ digits.length := by
  induction digits generalizing significand with
  | nil => exact Nat.le_refl 0
  | cons c digits ih =>
    rw [gathered, List.length_cons]
    split
    next => exact Nat.le_refl _
    next => exact Nat.le_succ_of_le (ih _)

/-- The first digit always fits. -/
theorem gathered_zero_cons {c : Char} (digit : c.isDigit = true) (digits : List Char) :
    gathered 0 (c :: digits) = gathered (c.toNat - '0'.toNat) digits := by
  have bound := toNat_sub_of_isDigit digit
  have limit : 10 ≤ maxSignificand := by decide
  rw [gathered, Nat.zero_mul, Nat.zero_add, if_neg (by omega)]

/-- Digits that are passed over only make the value smaller. -/
theorem gathered_mul_pow_le (significand : Nat) (digits : List Char) :
    (gathered significand digits).1 * 10 ^ (gathered significand digits).2 ≤
      valueOf digits significand := by
  induction digits generalizing significand with
  | nil => simp [gathered, valueOf]
  | cons c digits ih =>
    rw [gathered]
    split
    next => exact mul_pow_le_valueOf (c :: digits) significand
    next =>
      rw [valueOf_cons]
      exact ih _

theorem dropDigits_append {digits rest : List Char} (each : ∀ c ∈ digits, c.isDigit = true)
    (stops : startsWithDigit rest = false) : dropDigits (digits ++ rest) = rest := by
  have all : ∀ c ∈ digits, (digit? c).isSome = true := fun c member => by
    rw [isSome_digit?, each c member]
  rw [dropDigits, List.dropWhile_append_of_pos all]
  cases rest with
  | nil => rfl
  | cons c rest =>
    have other : (digit? c).isSome = false := stops
    rw [List.dropWhile_cons_of_neg (by simp [other])]

theorem length_takeDigits_append {digits rest : List Char}
    (each : ∀ c ∈ digits, c.isDigit = true) (stops : startsWithDigit rest = false) :
    ((digits ++ rest).takeWhile fun c => (digit? c).isSome).length = digits.length := by
  have all : ∀ c ∈ digits, (digit? c).isSome = true := fun c member => by
    rw [isSome_digit?, each c member]
  rw [List.takeWhile_append_of_pos all]
  cases rest with
  | nil => simp
  | cons c rest =>
    have other : (digit? c).isSome = false := stops
    rw [List.takeWhile_cons_of_neg (by simp [other]), List.append_nil]

section Runs

variable {digits rest : List Char} (each : ∀ c ∈ digits, c.isDigit = true)
  (stops : startsWithDigit rest = false)

include each stops

theorem integerDigits_append (significand : Nat) :
    integerDigits significand (digits ++ rest) =
      ((gathered significand digits).1, (gathered significand digits).2, rest) := by
  induction digits generalizing significand with
  | nil =>
    -- What follows is no digit, so the run ends here.
    cases rest with
    | nil => rfl
    | cons c rest =>
      have other := digit?_of_stops stops
      simp only [List.nil_append, integerDigits, other, gathered]
  | cons c digits ih =>
    have behind : ∀ d ∈ digits, d.isDigit = true := fun d member =>
      each d (List.mem_cons_of_mem _ member)
    simp only [List.cons_append, integerDigits, digit?_of_isDigit (each c List.mem_cons_self),
      gathered]
    split
    next =>
      rw [length_takeDigits_append behind stops, dropDigits_append behind stops, Nat.add_comm]
    next => exact ih behind _

theorem fractionDigits_append (significand : Nat) (exponent : Int) :
    fractionDigits significand exponent (digits ++ rest) =
      ((gathered significand digits).1,
        exponent - digits.length + (gathered significand digits).2, rest) := by
  induction digits generalizing significand exponent with
  | nil =>
    cases rest with
    | nil => simp [fractionDigits, gathered]
    | cons c rest =>
      have other := digit?_of_stops stops
      simp [fractionDigits, other, gathered]
  | cons c digits ih =>
    have behind : ∀ d ∈ digits, d.isDigit = true := fun d member =>
      each d (List.mem_cons_of_mem _ member)
    simp only [List.cons_append, fractionDigits, digit?_of_isDigit (each c List.mem_cons_self),
      gathered, List.length_cons]
    split
    next =>
      -- The digits that do not fit count in the length and are counted back.
      rw [dropDigits_append behind stops]
      congr 2
      push_cast
      omega
    next =>
      rw [ih behind]
      congr 2
      push_cast
      omega

/-- The digits of an exponent are all passed over, whether or not it is in range. -/
theorem exponentDigits_append (exponent : Nat) :
    exponentDigits exponent (digits ++ rest) = (some (valueOf digits exponent), rest) ∨
      maxExponent < valueOf digits exponent ∧
        ∃ behind, exponentDigits exponent (digits ++ rest) = (none, behind) ∧
          dropDigits behind = rest := by
  induction digits generalizing exponent with
  | nil =>
    refine .inl ?_
    cases rest with
    | nil => rfl
    | cons c rest =>
      have other := digit?_of_stops stops
      simp only [List.nil_append, exponentDigits, other]
      rfl
  | cons c digits ih =>
    have behind : ∀ d ∈ digits, d.isDigit = true := fun d member =>
      each d (List.mem_cons_of_mem _ member)
    simp only [List.cons_append, exponentDigits, digit?_of_isDigit (each c List.mem_cons_self),
      valueOf_cons]
    split
    next large =>
      exact .inr ⟨Nat.lt_of_lt_of_le large (le_valueOf digits _), _, rfl,
        dropDigits_append behind stops⟩
    next => exact ih behind _

end Runs

/-! ## Whole numerals -/

/-- The digits of a number: there are some, and no zero leads others. -/
structure IsNumeral (digits : List Char) (n : Nat) : Prop where
  each : ∀ c ∈ digits, c.isDigit = true
  nonempty : digits ≠ []
  value : valueOf digits 0 = n
  lead : ∀ more, digits = '0' :: more → more = []

theorem isDigit_of_mem_toDigits {n : Nat} {c : Char} (member : c ∈ Nat.toDigits 10 n) :
    c.isDigit = true :=
  Nat.isDigit_of_mem_toDigits (by decide) (by decide) member

theorem toDigits_starts (n : Nat) : ∃ c cs, Nat.toDigits 10 n = c :: cs ∧ c.isDigit = true := by
  obtain ⟨c, cs, digits⟩ := List.exists_cons_of_ne_nil (Nat.toDigits_ne_nil (n := n) (b := 10))
  exact ⟨c, cs, digits, isDigit_of_mem_toDigits (n := n) (digits ▸ List.mem_cons_self)⟩

/-- Numbers are written without needless zeros. -/
theorem isNumeral_toDigits (n : Nat) : IsNumeral (Nat.toDigits 10 n) n where
  each _ := isDigit_of_mem_toDigits
  nonempty := Nat.toDigits_ne_nil
  value := Nat.ofDigitChars_ten_toDigits
  lead more written := by
    have value : valueOf (Nat.toDigits 10 n) 0 = n := Nat.ofDigitChars_ten_toDigits
    have behind : ∀ c ∈ more, c.isDigit = true := fun c member =>
      isDigit_of_mem_toDigits (n := n) (written ▸ List.mem_cons_of_mem _ member)
    have small : n < 10 ^ more.length := by
      rw [written, valueOf_cons] at value
      have bound := valueOf_lt behind (0 * 10 + ('0'.toNat - '0'.toNat))
      rw [value] at bound
      simpa using bound
    -- With a zero in front there would be one digit more than the number takes.
    by_contra some
    have length : 0 < more.length := List.length_pos_iff.mpr some
    have short := (Nat.length_toDigits_le_iff (b := 10) (by decide) length).mpr small
    rw [written, List.length_cons] at short
    omega

/-- Sixteen digits fit any significand. -/
theorem IsNumeral.fits {digits : List Char} {n : Nat} (numeral : IsNumeral digits n)
    (short : digits.length ≤ 16) : n ≤ maxSignificand := by
  have bound := valueOf_lt numeral.each 0
  have power : 10 ^ digits.length ≤ 10 ^ 16 := Nat.pow_le_pow_right (by decide) short
  have limit : 10 ^ 16 ≤ maxSignificand := by decide
  rw [numeral.value, Nat.zero_add, Nat.one_mul] at bound
  omega

/-- The first digit decides whether a zero leads. -/
theorem IsNumeral.append {digits more : List Char} {n : Nat} (numeral : IsNumeral digits n)
    (positive : 0 < n) (each : ∀ c ∈ more, c.isDigit = true) :
    IsNumeral (digits ++ more) (valueOf more n) where
  each c member := (List.mem_append.mp member).elim (numeral.each c) (each c)
  nonempty := by simp [numeral.nonempty]
  value := by
    rw [valueOf, Nat.ofDigitChars_append]
    exact congrArg (Nat.ofDigitChars 10 more) numeral.value
  lead behind written := by
    obtain ⟨c, cs, rfl⟩ := List.exists_cons_of_ne_nil numeral.nonempty
    rw [List.cons_append, List.cons.injEq] at written
    obtain ⟨rfl, -⟩ := written
    have alone := numeral.lead cs rfl
    subst alone
    have zero : n = 0 := numeral.value.symm
    omega

/-- What stands before the point of a number with a point. -/
theorem IsNumeral.take {digits : List Char} {n : Nat} (numeral : IsNumeral digits n) (count : Nat) :
    IsNumeral (digits.take (count + 1)) (valueOf (digits.take (count + 1)) 0) where
  each c member := numeral.each c (List.mem_of_mem_take member)
  nonempty := by simp [numeral.nonempty]
  value := rfl
  lead behind written := by
    obtain ⟨c, cs, rfl⟩ := List.exists_cons_of_ne_nil numeral.nonempty
    rw [List.take_succ_cons, List.cons.injEq] at written
    obtain ⟨rfl, rfl⟩ := written
    rw [numeral.lead cs rfl, List.take_nil]

/-- What follows a value in a written text: nothing, a separator or a closing bracket. -/
def Ends (rest : List Char) : Prop := ∀ c ∈ rest.head?, c = ',' ∨ c = ']' ∨ c = closeBrace

/-- What is read behind the first digits of a numeral. -/
def readBehind (negative : Bool) (n : Nat) (cs : List Char) : Except Fault (Number × List Char) :=
  let real (r : Except Fault (Binary64 × List Char)) : Except Fault (Number × List Char) :=
    r.map fun (x, rest) => (.real x, rest)
  match cs with
  | '.' :: tail => real (readFraction negative n 0 tail)
  | 'e' :: tail => real (readExponent negative n 0 tail)
  | 'E' :: tail => real (readExponent negative n 0 tail)
  | _ => do
    let n ← Number.ofInteger negative n
    pure (n, cs)

/-- A numeral from its first digit up to what is no digit. -/
theorem readNumeral_append {digits rest : List Char} {n : Nat} (numeral : IsNumeral digits n)
    (fits : n ≤ maxSignificand) (stops : startsWithDigit rest = false) (negative : Bool) :
    readNumeral negative (digits ++ rest) = readBehind negative n rest := by
  obtain ⟨c, cs, rfl⟩ := List.exists_cons_of_ne_nil numeral.nonempty
  have digit := digit?_of_isDigit (numeral.each c List.mem_cons_self)
  have behind : ∀ d ∈ cs, d.isDigit = true := fun d member =>
    numeral.each d (List.mem_cons_of_mem _ member)
  have value : valueOf cs (c.toNat - '0'.toNat) = n := by
    have whole := numeral.value
    rw [valueOf_cons, Nat.zero_mul, Nat.zero_add] at whole
    exact whole
  -- A zero stands alone, so it does not matter that nothing is gathered behind it.
  have run : (if c.toNat - '0'.toNat = 0 then (0, 0, cs ++ rest)
      else integerDigits (c.toNat - '0'.toNat) (cs ++ rest)) = (n, 0, rest) := by
    split
    next zero =>
      have alone : cs = [] := numeral.lead cs (by
        have lower : '0'.toNat ≤ c.toNat := (isDigit_iff.mp (numeral.each c List.mem_cons_self)).1
        have same : c.toNat = '0'.toNat := Nat.le_antisymm (Nat.sub_eq_zero_iff_le.mp zero) lower
        rw [Char.toNat_inj.mp same])
      subst alone
      rw [← value, zero]
      rfl
    next => rw [integerDigits_append behind stops, gathered_of_fits (value.symm ▸ fits), value]
  have plain : ¬ (c.toNat - '0'.toNat = 0 ∧ startsWithDigit (cs ++ rest) = true) := by
    rintro ⟨zero, digit⟩
    rw [if_pos zero] at run
    simp only [Prod.mk.injEq] at run
    rw [run.2.2, stops] at digit
    cases digit
  simp only [List.cons_append, readNumeral, digit, if_neg plain, run, if_true]
  rfl

namespace Ends

variable {rest : List Char} (ends : Ends rest)

include ends

theorem startsWithDigit : startsWithDigit rest = false := by
  cases rest with
  | nil => rfl
  | cons c rest => rcases ends c rfl with rfl | rfl | rfl <;> rfl

theorem readBehind (negative : Bool) (n : Nat) :
    readBehind negative n rest = (Number.ofInteger negative n).map fun n => (n, rest) := by
  cases rest with
  | nil => exact bind_pure_comp _ _
  | cons c rest => rcases ends c rfl with rfl | rfl | rfl <;> exact bind_pure_comp _ _

theorem readScale (negative : Bool) (significand : Nat) (exponent : Int) :
    readScale negative significand exponent rest =
      (realOfParts negative significand exponent).map fun x => (x, rest) := by
  cases rest with
  | nil => exact bind_pure_comp _ _
  | cons c rest => rcases ends c rfl with rfl | rfl | rfl <;> exact bind_pure_comp _ _

end Ends

/-! ## Integers -/

/-- Natural numbers are read as they were written. -/
theorem readNumeral_nat (n : Fin UInt64.size) {rest : List Char} (ends : Ends rest) :
    readNumeral false (Nat.toDigits 10 n.val ++ rest) = .ok (.nat n, rest) := by
  have fits : n.val ≤ maxSignificand := Nat.le_sub_one_of_lt n.isLt
  rw [readNumeral_append (isNumeral_toDigits n.val) fits ends.startsWithDigit, ends.readBehind]
  have some : Number.ofInt? (n.val : Int) = some (.nat n) := dif_pos n.isLt
  simp only [Number.ofInteger, Bool.false_eq_true, if_false, some, Except.map]

/-- So are negative integers; the sign is read before. -/
theorem readNumeral_negSucc (n : Fin (UInt64.size / 2)) {rest : List Char} (ends : Ends rest) :
    readNumeral true (Nat.toDigits 10 (n.val + 1) ++ rest) = .ok (.negSucc n, rest) := by
  have size : UInt64.size / 2 + 1 ≤ maxSignificand := by decide
  have fits : n.val + 1 ≤ maxSignificand := by omega
  rw [readNumeral_append (isNumeral_toDigits _) fits ends.startsWithDigit, ends.readBehind]
  have some : Number.ofInt? (Int.negSucc n.val) = some (.negSucc n) := dif_pos n.isLt
  have negated : -((n.val + 1 : Nat) : Int) = Int.negSucc n.val := rfl
  simp only [Number.ofInteger, if_true, Nat.succ_ne_zero, if_false, negated, some, Except.map]

/-! ## Fractions and exponents -/

section Parts

variable {digits rest : List Char} (each : ∀ c ∈ digits, c.isDigit = true)
  (nonempty : digits ≠ []) (stops : startsWithDigit rest = false) (negative : Bool)
  (significand : Nat)

include each nonempty stops

theorem readFraction_append (start : Int) :
    readFraction negative significand start (digits ++ rest) =
      readScale negative (gathered significand digits).1
        (start - digits.length + (gathered significand digits).2) rest := by
  have run := fractionDigits_append each stops significand start
  obtain ⟨c, cs, rfl⟩ := List.exists_cons_of_ne_nil nonempty
  have digit : (digit? c).isNone = false := by
    rw [digit?_of_isDigit (each c List.mem_cons_self)]
    rfl
  rw [List.cons_append] at run ⊢
  simp only [readFraction, digit, Bool.false_eq_true, if_false, run]

theorem readExponent_plus {start : Int} (range : valueOf digits 0 ≤ maxExponent) :
    readExponent negative significand start ('+' :: (digits ++ rest)) =
      (realOfParts negative significand (start + valueOf digits 0)).map fun x => (x, rest) := by
  obtain ⟨c, cs, rfl⟩ := List.exists_cons_of_ne_nil nonempty
  have digit := digit?_of_isDigit (each c List.mem_cons_self)
  have behind : ∀ d ∈ cs, d.isDigit = true := fun d member => each d (List.mem_cons_of_mem _ member)
  rw [valueOf_cons, Nat.zero_mul, Nat.zero_add] at range ⊢
  rcases exponentDigits_append behind stops (c.toNat - '0'.toNat) with run | ⟨large, -⟩
  · simp only [List.cons_append, readExponent, digit, run, Bool.false_eq_true, if_false]
    exact bind_pure_comp _ _
  · omega

theorem readExponent_minus {start : Int}
    (scaled : ∃ x, realOfParts negative significand (start - valueOf digits 0) = .ok x) :
    ∃ x, readExponent negative significand start ('-' :: (digits ++ rest)) = .ok (x, rest) := by
  obtain ⟨c, cs, rfl⟩ := List.exists_cons_of_ne_nil nonempty
  have digit := digit?_of_isDigit (each c List.mem_cons_self)
  have behind : ∀ d ∈ cs, d.isDigit = true := fun d member => each d (List.mem_cons_of_mem _ member)
  rw [valueOf_cons, Nat.zero_mul, Nat.zero_add] at scaled
  obtain ⟨x, scaled⟩ := scaled
  -- Below zero no exponent is out of range: one that is too long makes the number zero.
  rcases exponentDigits_append behind stops (c.toNat - '0'.toNat) with run | ⟨-, left, run, rfl⟩
  · refine ⟨x, ?_⟩
    simp only [List.cons_append, readExponent, digit, run, if_true, scaled]
    rfl
  · refine ⟨if negative then Binary64.zero.neg else Binary64.zero, ?_⟩
    simp only [List.cons_append, readExponent, digit, run, Bool.not_true, Bool.false_eq_true,
      and_false, if_false]

end Parts

end Outbox.Json
