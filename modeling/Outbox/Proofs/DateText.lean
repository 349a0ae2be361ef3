import Outbox.Proofs.Calendar
import Outbox.Proofs.Instants
import Outbox.Proofs.Numerals
import Outbox.Time.Rfc3339

/-!
# Dates and times that are read back

The written form of an instant is read as that instant, for all years of the calendar: those of four
digits and those with a sign, with no fraction or one of three, six or nine digits. Each part is
read with any text behind it that does not go on with a digit, so the parts are put together one by
one; at the end a date that comes of a day number has that day number.
-/
namespace Outbox.Time.Rfc3339

open Outbox.Text

/-! ## Numbers -/

/-- No digit stands at the beginning. -/
def Stops (cs : List Char) : Prop := ∀ c ∈ cs.head?, isDigit c = false

/-- Digits that are worth a number. -/
structure Digits (cs : List Char) (n : Nat) : Prop where
  each : ∀ c ∈ cs, isDigit c = true
  nonempty : cs ≠ []
  value : Nat.ofDigitChars 10 cs 0 = n

theorem isDigit_eq (c : Char) : isDigit c = c.isDigit := by
  rw [Bool.eq_iff_iff, Json.isDigit_iff]
  simp [isDigit]

theorem not_isBlank_of_isDigit {c : Char} (digit : isDigit c = true) : isBlank c = false := by
  rw [isDigit_eq] at digit
  obtain ⟨low, high⟩ := Json.isDigit_iff.mp digit
  have low : 48 ≤ c.toNat := low
  have high : c.toNat ≤ 57 := high
  simp only [isBlank, Bool.or_eq_false_iff, Bool.and_eq_false_iff, decide_eq_false_iff_not,
    beq_eq_false_iff_ne]
  omega

theorem digits_padded (width n : Nat) : Digits (padded width n) n where
  each c member := by
    rw [isDigit_eq]
    rcases List.mem_append.mp member with zero | digit
    · rw [(List.mem_replicate.mp zero).2]
      rfl
    · exact Json.isDigit_of_mem_toDigits digit
  nonempty := by simp [padded, Nat.toDigits_ne_nil]
  value := by
    rw [padded, Nat.ofDigitChars_append, Nat.ofDigitChars_replicate_zero, Nat.mul_zero]
    exact Nat.ofDigitChars_ten_toDigits

/-- A number that fits takes the whole width and no more. -/
theorem length_padded {width n : Nat} (positive : 0 < width) (fits : n < 10 ^ width) :
    (padded width n).length = width := by
  have short := (Nat.length_toDigits_le_iff (b := 10) (by decide) positive).mpr fits
  rw [padded, List.length_append, List.length_replicate]
  omega

theorem takeWhile_of_stops {cs : List Char} (stops : Stops cs) : cs.takeWhile isDigit = [] := by
  cases cs with
  | nil => rfl
  | cons c rest =>
    have other : isDigit c = false := stops c rfl
    rw [List.takeWhile_cons, other]
    rfl

/-- A number is read up to where its digits end, or its width. -/
theorem readNumber_append {digits rest : List Char} {n width : Nat} (written : Digits digits n)
    (small : n < UInt64.size / 2) (fits : digits.length ≤ width)
    (stops : digits.length = width ∨ Stops rest) :
    readNumber width (digits ++ rest) = .ok (n, rest) := by
  obtain ⟨c, more, rfl⟩ := List.exists_cons_of_ne_nil written.nonempty
  have behind : (rest.take (width - (c :: more).length)).takeWhile isDigit = [] := by
    rcases stops with full | stops
    · rw [full, Nat.sub_self]
      rfl
    · cases rest with
      | nil => simp
      | cons d rest =>
        cases width - (c :: more).length with
        | zero => rfl
        | succ k =>
          have begins : Stops (d :: rest.take k) := fun c head => stops c head
          exact takeWhile_of_stops begins
  have run : (((c :: more) ++ rest).take width).takeWhile isDigit = c :: more := by
    rw [List.take_append, List.take_of_length_le fits,
      List.takeWhile_append_of_pos written.each, behind, List.append_nil]
  have value : (c :: more).foldl (fun n c => 10 * n + digitValue c) 0 = n := written.value
  have first : isDigit c = true := written.each c List.mem_cons_self
  rw [List.cons_append] at run ⊢
  rw [readNumber]
  simp only [first, Bool.not_true, Bool.false_eq_true, if_false, run, value, if_pos small]
  rw [← List.cons_append, List.drop_left]

theorem skipBlanks_of_digits {digits : List Char} {n : Nat} (written : Digits digits n)
    (rest : List Char) : skipBlanks (digits ++ rest) = digits ++ rest := by
  obtain ⟨c, more, rfl⟩ := List.exists_cons_of_ne_nil written.nonempty
  have visible := not_isBlank_of_isDigit (written.each c List.mem_cons_self)
  rw [List.cons_append, skipBlanks, List.dropWhile_cons, visible]
  rfl

/-- A field of two digits. -/
theorem readField_padded {low high n : Nat} (least : low ≤ n) (most : n ≤ high)
    (fits : n < 10 ^ 2) (rest : List Char) :
    readField 2 low high (padded 2 n ++ rest) = .ok (n, rest) := by
  have written := digits_padded 2 n
  have length := length_padded (by decide) fits
  rw [readField, skipBlanks_of_digits written,
    readNumber_append written (by have : UInt64.size / 2 = 9223372036854775808 := rfl; omega)
      length.le (.inl length)]
  exact if_pos ⟨least, most⟩

/-! ## Years and fractions -/

theorem stops_cons {c : Char} {rest : List Char} (other : isDigit c = false) : Stops
    (c :: rest) := by
  intro d head
  cases head
  exact other

/-- Without a sign, four digits are read. -/
theorem readYear_of_digits {digits : List Char} {n : Nat} (written : Digits digits n)
    (width : digits.length = 4) (small : n ≤ 9999) (rest : List Char) :
    readYear (digits ++ rest) = .ok ((n : Int), rest) := by
  have size : UInt64.size / 2 = 9223372036854775808 := rfl
  have number : readNumber 4 (digits ++ rest) = .ok (n, rest) :=
    readNumber_append written (by omega) width.le (.inl width)
  have skipped := skipBlanks_of_digits written rest
  obtain ⟨c, more, rfl⟩ := List.exists_cons_of_ne_nil written.nonempty
  have digit := written.each c List.mem_cons_self
  rw [List.cons_append] at number skipped ⊢
  rw [readYear, skipped]
  split
  next sign =>
    cases sign
    cases digit
  next sign =>
    cases sign
    cases digit
  next =>
    rw [number]
    exact if_pos (by omega)

/-- With a sign, all digits are read. -/
theorem readYear_of_sign {digits rest : List Char} {n : Nat} (written : Digits digits n)
    (small : n ≤ 2147483647) (stops : Stops rest) :
    readYear ('-' :: (digits ++ rest)) = .ok (-(n : Int), rest) ∧
      readYear ('+' :: (digits ++ rest)) = .ok ((n : Int), rest) := by
  have size : UInt64.size / 2 = 9223372036854775808 := rfl
  have number : readNumber (digits ++ rest).length (digits ++ rest) = .ok (n, rest) :=
    readNumber_append written (by omega) (by simp) (.inr stops)
  have minus : skipBlanks ('-' :: (digits ++ rest)) = '-' :: (digits ++ rest) := rfl
  have plus : skipBlanks ('+' :: (digits ++ rest)) = '+' :: (digits ++ rest) := rfl
  constructor
  · have bounds : -2147483648 ≤ -(n : Int) ∧ -(n : Int) ≤ 2147483647 := by omega
    rw [readYear, minus]
    simp only [number]
    exact if_pos bounds
  · have bounds : -2147483648 ≤ (n : Int) ∧ (n : Int) ≤ 2147483647 := by omega
    rw [readYear, plus]
    simp only [number]
    exact if_pos bounds

/-- A year of the calendar, with or without a sign, before the mark that follows it. -/
theorem readYear_renderYear {year : Int} (low : -2147483647 ≤ year) (high : year ≤ 2147483647)
    (rest : List Char) : readYear (renderYear year ++ '-' :: rest) = .ok (year, '-' :: rest) := by
  have stops : Stops ('-' :: rest) := stops_cons rfl
  unfold renderYear
  split
  next plain =>
    have length : (padded 4 year.toNat).length = 4 := length_padded (by decide) (by omega)
    rw [readYear_of_digits (digits_padded 4 _) length (by omega)]
    exact congrArg (fun y => Except.ok (y, '-' :: rest)) (Int.toNat_of_nonneg plain.1)
  next signed =>
    have both := readYear_of_sign (digits_padded 4 year.natAbs) (by omega) stops
    split
    next negative =>
      rw [List.cons_append, both.1]
      exact congrArg (fun y => Except.ok (y, '-' :: rest)) (by omega)
    next positive =>
      rw [List.cons_append, both.2]
      exact congrArg (fun y => Except.ok (y, '-' :: rest)) (by omega)

/-- A fraction is read by its width. -/
theorem readFraction_padded {width n : Nat} (positive : 0 < width) (fits : width ≤ 9)
    (small : n < 10 ^ width) :
    readFraction ('.' :: padded width n ++ ['Z']) = .ok (n * 10 ^ (9 - width), ['Z']) := by
  have stops : Stops ['Z'] := stops_cons rfl
  have length := length_padded positive small
  have bound : 10 ^ width ≤ 10 ^ 9 := Nat.pow_le_pow_right (by decide) fits
  have size : UInt64.size / 2 = 9223372036854775808 := rfl
  have number := readNumber_append (digits_padded width n) (by omega)
    (length.le.trans fits) (.inr stops)
  have taken : (padded width n ++ ['Z']).length - ['Z'].length = width := by simp [length]
  rw [List.cons_append, readFraction]
  simp only [number]
  change Except.ok (n * Nat.pow 10 (9 - ((padded width n ++ ['Z']).length - ['Z'].length)),
    ['Z'].dropWhile isDigit) = _
  rw [taken]
  rfl

/-- The fraction has the fewest digits that suffice, so nothing is lost. -/
theorem readFraction_renderFraction {nanos : Nat} (part : nanos < 1000000000) :
    readFraction (renderFraction nanos ++ ['Z']) = .ok (nanos, ['Z']) := by
  unfold renderFraction
  split
  next none => rw [none]; rfl
  next =>
    split
    next milli =>
      rw [readFraction_padded (by decide) (by decide) (by omega)]
      exact congrArg (fun n => Except.ok (n, ['Z'])) (by omega)
    next =>
      split
      next micro =>
        rw [readFraction_padded (by decide) (by decide) (by omega)]
        exact congrArg (fun n => Except.ok (n, ['Z'])) (by omega)
      next =>
        rw [readFraction_padded (by decide) (by decide) (by omega)]
        exact congrArg (fun n => Except.ok (n, ['Z'])) (by omega)

/-! ## Instants -/

theorem readMark_cons {mark : Char} (visible : isBlank mark = false) (rest : List Char) :
    readMark mark (mark :: rest) = .ok rest := by
  rw [readMark, skipBlanks, List.dropWhile_cons, visible]
  exact if_pos rfl

theorem year_bounds {seconds : Int} (covered : Instant.inCalendar seconds = true) :
    -300000 ≤ (Date.ofDayNumber (seconds / Instant.secondsPerDay)).year ∧
      (Date.ofDayNumber (seconds / Instant.secondsPerDay)).year ≤ 300000 := by
  have first : Instant.firstSecond = -8334601228800 := rfl
  have last : Instant.lastSecond = 8210266876799 := rfl
  simp only [Instant.inCalendar, first, last, Bool.and_eq_true, decide_eq_true_eq] at covered
  simp only [Instant.secondsPerDay]
  exact Date.year_ofDayNumber (by omega) (by omega)

theorem parts_bounds {d : Date} (there : d.exists? = true) :
    1 ≤ d.month ∧ d.month ≤ 12 ∧ 1 ≤ d.day ∧ d.day ≤ 31 := by
  simp only [Date.exists?, Bool.and_eq_true, decide_eq_true_eq] at there
  obtain ⟨⟨⟨first, last⟩, low⟩, high⟩ := there
  have most : Date.daysInMonth d.year d.month ≤ 31 := by
    unfold Date.daysInMonth
    split
    · split <;> omega
    · split <;> omega
  omega

/-- The date and the second of its day give back the instant that they were taken from. -/
theorem resolve_ofDayNumber {t : Instant} (regular : t.Regular) {date : Date} {s : Nat}
    (there : date.exists? = true) (number : date.dayNumber = t.seconds / Instant.secondsPerDay)
    (seconds : (t.seconds % Instant.secondsPerDay).toNat = s) :
    resolve date (s / 3600 * 3600 + s / 60 % 60 * 60 + (s % 60 - 0)) (t.nanos + 0 * 1000000000) 0 =
      .ok t := by
  have wall : date.dayNumber * Instant.secondsPerDay +
      ((s / 3600 * 3600 + s / 60 % 60 * 60 + (s % 60 - 0) : Nat) : Int) = t.seconds := by
    simp only [Instant.secondsPerDay] at *
    omega
  have covered := regular.covered
  rw [resolve, wall]
  simp [there, covered, Instant.secondsPerDay]

/-- An instant that a clock can show is read back from its written form. -/
theorem read_render {t : Instant} (regular : t.Regular) :
    read (String.ofList (render t)) = .ok t := by
  obtain ⟨number, there⟩ := Date.ofDayNumber_spec (t.seconds / Instant.secondsPerDay)
  obtain ⟨low, high⟩ := year_bounds regular.covered
  obtain ⟨month, months, day, days⟩ := parts_bounds there
  have plain : t.nanos / 1000000000 = 0 := Nat.div_eq_of_lt regular.nanos_lt
  have part : t.nanos % 1000000000 = t.nanos := Nat.mod_eq_of_lt regular.nanos_lt
  have inDay : (t.seconds % Instant.secondsPerDay).toNat < 86400 := by
    simp only [Instant.secondsPerDay]
    omega
  rw [read, String.toList_ofList, render, plain, part]
  generalize Date.ofDayNumber (t.seconds / Instant.secondsPerDay) = date at *
  generalize seconds : (t.seconds % Instant.secondsPerDay).toNat = s at *
  simp only [List.append_assoc, List.cons_append, Nat.add_zero]
  have dash (rest : List Char) : readMark '-' ('-' :: rest) = .ok rest := readMark_cons rfl rest
  have colon (rest : List Char) : readMark ':' (':' :: rest) = .ok rest := readMark_cons rfl rest
  have zulu : readOffset (skipBlanks ['Z']) = .ok (0, []) := rfl
  -- The parts are read one after the other, each with the others behind it.
  rw [readYear_renderYear (by omega) (by omega)]
  simp only [bind, Except.bind, dash]
  rw [readField_padded month months (by omega)]
  simp only [dash]
  rw [readField_padded day days (by omega)]
  simp only [true_or, if_true]
  rw [readField_padded (Nat.zero_le _) (by omega) (by omega)]
  simp only [colon]
  rw [readField_padded (Nat.zero_le _) (by omega) (by omega)]
  simp only [colon]
  rw [readField_padded (Nat.zero_le _) (by omega) (by omega)]
  simp only [readFraction_renderFraction regular.nanos_lt, zulu]
  have minute : s % 60 ≠ 60 := by omega
  rw [if_neg minute]
  exact resolve_ofDayNumber regular there number seconds

end Outbox.Time.Rfc3339
