import Outbox.Proofs.Leases
import Outbox.Proofs.Transactions

/-!
# How far ahead a value can be put

A span has up to `2 ^ 64` seconds, a word of the store counts milliseconds with a sign, and the
calendar ends long before that word does. A span that is too long for milliseconds is refused first,
and then a sum that the calendar does not cover; either way the store is not even asked. What is
left is so far inside the words that nothing wraps on the way to the row, and inside the calendar,
so that the end is read back as it was, cut down to milliseconds. A millisecond is enough for a
value to be there when it is asked for at once.
-/
namespace Outbox

open Table Time

namespace Time.Instant

/-- The instant is stored in a word, and read back as it was, cut down to milliseconds. -/
structure Kept (t : Instant) : Prop where
  word : Numeral.isMachineInteger t.toMillis = true
  /-- What is stored is read as an instant of the calendar, and not as the start of 1970. -/
  covered : inCalendar (t.toMillis / 1000) = true
  count_stored : (ofMillis t.toMillis).count = t.count / 1000000 * 1000000

theorem firstSecond_eq : firstSecond = -8334601228800 := by decide

theorem lastSecond_eq : lastSecond = 8210266876799 := by decide

/-- The seconds of the calendar need no more than 44 bits. -/
theorem seconds_of_inCalendar {seconds : Int} (covered : inCalendar seconds = true) :
    -8334601228800 ≤ seconds ∧ seconds ≤ 8210266876799 := by
  rw [← firstSecond_eq, ← lastSecond_eq]
  simpa only [inCalendar, Bool.and_eq_true, decide_eq_true_eq] using covered

theorem isMachineInteger_iff {n : Int} :
    Numeral.isMachineInteger n = true ↔ -9223372036854775808 ≤ n ∧ n < 9223372036854775808 := by
  rw [Numeral.isMachineInteger, Bool.and_eq_true, decide_eq_true_iff, decide_eq_true_iff]
  rfl

theorem Regular.kept {t : Instant} (regular : t.Regular) : t.Kept where
  word := by
    have bounds := seconds_of_inCalendar regular.covered
    have nanos := regular.nanos_lt
    rw [isMachineInteger_iff, toMillis]
    omega
  covered := regular.covered_toMillis
  count_stored := regular.count_stored

/-- What is computed of an instant and a span fits a word: the seconds of their sum, whether the
calendar covers it or not, and the milliseconds of a sum that it covers. -/
structure Fits (now : Instant) (span : Span) : Prop where
  span_seconds : Numeral.isMachineInteger span.seconds = true
  sum_seconds : Numeral.isMachineInteger (now.sum span).seconds = true
  sum_millis : ∀ last, now.add? span = some last → Numeral.isMachineInteger last.toMillis = true

theorem Regular.fits {now : Instant} (regular : now.Regular) {span : Span}
    (countable : span.count ≤ longestSpan) : now.Fits span := by
  have bounds := seconds_of_inCalendar regular.covered
  have nanos := regular.nanos_lt
  simp only [Span.count, longestSpan] at countable
  constructor
  · rw [isMachineInteger_iff]
    omega
  · rw [isMachineInteger_iff, seconds_sum, count, Span.count]
    omega
  · exact fun last added => (of_add? added).1.kept.word

end Time.Instant

namespace CacheEntry

/-- An entry that is put at an instant for a span: it ends a span later, both times are kept by the
store, and if the span has a millisecond the entry is there at the instant. -/
structure LastsFrom (x : CacheEntry) (now : Instant) (ttl : Option Instant.Span) : Prop where
  storedAt : x.storedAt = now
  ends : x.expiresAt.map Instant.count = ttl.map fun span => now.count + span.count
  kept : ∀ t ∈ x.storedAt :: x.expiresAt.toList, t.Kept
  lasting : (∀ span ∈ ttl, 1000000 ≤ span.count) → x.stored.isExpiredAt now = false

theorem lastsFrom {now : Instant} (regular : now.Regular) {ttl : Option Instant.Span} {key : String}
    {value : Json} {ends : Option Instant} (regulars : ∀ t ∈ ends, t.Regular)
    (same : ends.map Instant.count = ttl.map fun span => now.count + span.count) :
    LastsFrom ⟨key, value, now, ends⟩ now ttl where
  storedAt := rfl
  ends := same
  kept t member := by
    rcases List.mem_cons.mp member with rfl | last
    · exact regular.kept
    · exact (regulars t (Option.mem_toList.mp last)).kept
  lasting long := by
    rw [Bool.eq_false_iff, Ne, isExpiredAt_stored regulars regular.nanos_lt]
    rintro ⟨last, member, past⟩
    -- Less than a millisecond is cut off, so what is left of the span is more than nothing.
    obtain ⟨t, there, rfl⟩ := Option.mem_map.mp member
    rw [show ends = some t from there, Option.map_some, eq_comm, Option.map_eq_some_iff] at same
    obtain ⟨span, given, sum⟩ := same
    have millisecond := long span given
    omega

end CacheEntry

/-- A value is put for a span, whatever its length and whatever the table holds, exactly if the
milliseconds of the span fit a word and the calendar covers its end. Then the row of the key is the
entry's, which ends a span after the instant and keeps its times; otherwise the store is left alone.
In neither case does anything that is computed of the instant and the span leave a word. -/
theorem put_iff_ends_in_calendar {e : Engine} {now : Instant} (regular : now.Regular)
    (opened : (e.storage.ensureOpen now).2.2 = .ok ())
    (unguarded : (e.opened now).database.Unguarded .cache) {ttl : Option Instant.Span}
    (short : ∀ span ∈ ttl, span.nanos < 1000000000) (key : String) (value : Json) :
    (Accepted now ttl → ∃ x : CacheEntry, x.key = key ∧ x.value = value ∧ x.LastsFrom now ttl ∧
      (e.cacheValue key value ttl now).database =
        (e.opened now).database.withRows .cache
          (upserted [1, 2, 3] key x.toRow ((e.opened now).database.rowsOf .cache))) ∧
    (¬ Accepted now ttl → (e.cacheValue key value ttl now).storage = e.storage) ∧
    ∀ span ∈ ttl, span.count ≤ Instant.longestSpan → now.Fits span := by
  refine ⟨fun accepted => ?_, fun refused => ?_, fun span _ countable => regular.fits countable⟩
  · rcases CacheEntry.fresh_ends now key value short with
      ⟨-, ends, made, regulars, same⟩ | ⟨refused, -⟩
    · refine ⟨⟨key, value, now, ends⟩, rfl, rfl, CacheEntry.lastsFrom regular regulars same, ?_⟩
      have written : (e.opened now).database.upsert .cache
          (CacheEntry.toRow ⟨key, value, now, ends⟩) [1, 2, 3] = _ := unguarded.upsert rfl rfl
      have isOpen := Engine.isOpen_opened opened
      simp only [Engine.cacheValue, made, Engine.change, Engine.access_of_opened opened,
        Database.atomically, Database.putCacheEntry, written, Error.ofTable, Except.map]
      exact Engine.database_setDatabase isOpen _
    · exact absurd accepted refused
  · rcases CacheEntry.fresh_ends now key value short with ⟨accepted, -⟩ | ⟨-, fault, made⟩
    · exact absurd accepted refused
    · simp only [Engine.cacheValue, made]
      rfl

namespace Engine

/-- A second before the last nanosecond of the calendar. -/
def sampleLate : Instant := ⟨8210266876798, 999999999⟩

end Engine

/-- The theorem a second before the calendar ends, at a span of a second and at one of a nanosecond
more. -/
theorem second_put_at_end_of_calendar :
    (∃ x : CacheEntry, x.LastsFrom Engine.sampleLate (some ⟨1, 0⟩) ∧
      ((Engine.inMemory .default true).cacheValue "a" .null (some ⟨1, 0⟩)
        Engine.sampleLate).database.rowsOf .cache = [⟨1, x.toRow⟩]) ∧
    ((Engine.inMemory .default true).cacheValue "a" .null (some ⟨1, 1⟩) Engine.sampleLate).storage =
      (Engine.inMemory .default true).storage := by
  have regular : Engine.sampleLate.Regular := by decide
  have unguarded : ((Engine.inMemory .default true).opened Engine.sampleLate).database.get? .cache =
      some (ofRows (((Engine.inMemory .default true).opened Engine.sampleLate).database.rowsOf
        .cache)) := by decide +kernel
  have put (nanos : Nat) (short : ∀ span ∈ some (⟨1, nanos⟩ : Instant.Span),
      span.nanos < 1000000000) :=
    put_iff_ends_in_calendar regular rfl unguarded short "a" .null
  obtain ⟨x, -, -, lasts, database⟩ := (put 0 (by decide)).1 (by decide)
  refine ⟨⟨x, lasts, ?_⟩, (put 1 (by decide)).2.1 (by decide)⟩
  rw [database, Database.rowsOf_withRows_self]
  rfl

end Outbox
