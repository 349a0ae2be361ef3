import Mathlib.Tactic.NormNum
import Outbox.Time.Instant

/-!
# Instants as numbers

Outside leap seconds an instant is the number of nanoseconds since 1970. Time order, the sum of an
instant and a span and the truncation on the way into storage are then arithmetic of integers, and
what is stored reads back as the same number cut down to milliseconds.
-/
namespace Outbox.Time.Instant

/-- Nanoseconds since 1970. -/
def count (t : Instant) : Int := t.seconds * 1000000000 + t.nanos

/-- Nanoseconds of a span. -/
def Span.count (s : Span) : Int := s.seconds * 1000000000 + s.nanos

/-- An instant of the calendar that is not inside a leap second. A clock shows no others. -/
structure Regular (t : Instant) : Prop where
  covered : inCalendar t.seconds = true
  nanos_lt : t.nanos < 1000000000

instance (t : Instant) : Decidable t.Regular :=
  decidable_of_iff (inCalendar t.seconds = true ∧ t.nanos < 1000000000)
    ⟨fun ⟨covered, nanos_lt⟩ => ⟨covered, nanos_lt⟩, fun h => ⟨h.covered, h.nanos_lt⟩⟩

/-- The longest span counts as many milliseconds as a signed 64-bit word. -/
def longestSpan : Int := 9223372036854775807 * 1000000

variable {s t last : Instant} {span : Span}

theorem isBefore_iff (hs : s.nanos < 1000000000) (ht : t.nanos < 1000000000) :
    s.isBefore t = true ↔ s.count < t.count := by
  simp only [isBefore, count, Bool.or_eq_true, Bool.and_eq_true, decide_eq_true_eq, beq_iff_eq]
  omega

theorem toMillis_eq (t : Instant) : t.toMillis = t.count / 1000000 := by
  simp only [toMillis, count]
  omega

theorem count_ofMillis {ms : Int} (covered : inCalendar (ms / 1000) = true) :
    (ofMillis ms).count = ms * 1000000 := by
  rw [ofMillis, if_pos covered]
  simp only [count]
  omega

/-- Reading gives nothing but what a clock could show. -/
theorem regular_ofMillis (ms : Int) : (ofMillis ms).Regular := by
  unfold ofMillis
  split
  next covered =>
    refine ⟨covered, ?_⟩
    simp only
    omega
  · exact ⟨by decide, by decide⟩

theorem Regular.covered_toMillis (h : t.Regular) : inCalendar (t.toMillis / 1000) = true := by
  -- Outside leap seconds the milliseconds do not reach into the next second.
  have second : t.toMillis / 1000 = t.seconds := by
    have := h.nanos_lt
    simp only [toMillis]
    omega
  rw [second]
  exact h.covered

/-- The last whole millisecond that is not after an instant. -/
def floorMillis (t : Instant) : Instant := ⟨t.seconds, t.nanos / 1000000 * 1000000⟩

/-- Storage keeps the last whole millisecond, before 1970 and at the ends of the calendar too. -/
theorem Regular.ofMillis_toMillis (h : t.Regular) : ofMillis t.toMillis = t.floorMillis := by
  have short := h.nanos_lt
  have second : t.toMillis / 1000 = t.seconds := by
    simp only [toMillis]
    omega
  have rest : (t.toMillis % 1000).toNat = t.nanos / 1000000 := by
    simp only [toMillis]
    omega
  rw [ofMillis, second, if_pos h.covered, rest, floorMillis]

theorem toMillis_floorMillis (t : Instant) : t.floorMillis.toMillis = t.toMillis := by
  simp only [floorMillis, toMillis, Nat.mul_div_cancel _ (show 0 < 1000000 by decide)]

/-- What is stored of an instant reads back cut down to milliseconds. -/
theorem Regular.count_stored (h : t.Regular) :
    (ofMillis t.toMillis).count = t.count / 1000000 * 1000000 := by
  rw [count_ofMillis h.covered_toMillis, toMillis_eq]

theorem Regular.toMillis_stored (h : t.Regular) : (ofMillis t.toMillis).toMillis = t.toMillis := by
  rw [toMillis_eq, count_ofMillis h.covered_toMillis]
  omega

theorem Span.isCountable_iff (short : span.nanos < 1000000000) :
    span.isCountable = true ↔ span.count ≤ longestSpan := by
  simp only [isCountable, count, longestSpan, Bool.or_eq_true, Bool.and_eq_true,
    decide_eq_true_eq, beq_iff_eq]
  omega

/-- The second in which a sum lies. -/
theorem seconds_sum (t : Instant) (span : Span) :
    (t.sum span).seconds = (t.count + span.count) / 1000000000 := by
  simp only [sum, count, Span.count]
  omega

theorem count_sum (t : Instant) (span : Span) : (t.sum span).count = t.count + span.count := by
  simp only [sum, count, Span.count]
  omega

/-- A sum is an instant as long as the calendar covers it. -/
theorem exists_add?_iff :
    (∃ last, t.add? span = some last) ↔
      inCalendar ((t.count + span.count) / 1000000000) = true := by
  rw [← seconds_sum, add?]
  split
  next covered => simp [covered]
  next outside => simp [outside]

theorem of_add? (added : t.add? span = some last) :
    last.Regular ∧ last.count = t.count + span.count := by
  obtain ⟨covered, same⟩ := Option.ite_none_right_eq_some.mp added
  obtain rfl := Option.some.inj same
  -- The nanoseconds are carried, so what is left of them is less than a second.
  exact ⟨⟨covered, Nat.mod_lt _ (by norm_num)⟩, count_sum t span⟩

end Outbox.Time.Instant
