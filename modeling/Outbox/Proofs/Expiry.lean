import Outbox.Proofs.Leases

/-!
# Two ways to expire

A purge removes cached values by a comparison of whole milliseconds, and a look-up compares the
instants themselves. They agree about every end but a few. An end in the very millisecond of the
moment is past for a look-up as soon as a part of that millisecond is, and for a purge only when all
of it is. Within a leap second, which no clock shows, a purge is ahead. And an end outside of the
calendar, which nobody stores, is read as the start of 1970 by a look-up and not by a purge.

Both comparisons are inequalities between integers, so where they agree is settled by arithmetic.
-/
namespace Outbox

open Table Time

/-! ## Ends -/

namespace Time.Instant

/-- An instant that was read is before another one if its nanoseconds are; a leap second comes after
all nanoseconds of the second that it follows, and before those of the next one. -/
theorem isBefore_ofMillis_iff {ms : Int} {t : Instant} (covered : inCalendar (ms / 1000) = true) :
    (ofMillis ms).isBefore t = true ↔
      ms * 1000000 < t.seconds * 1000000000 + min t.nanos 1000000000 := by
  rw [ofMillis, if_pos covered]
  simp only [isBefore, Bool.or_eq_true, Bool.and_eq_true, decide_eq_true_eq, beq_iff_eq]
  omega

/-- A purge and a look-up at an instant disagree about a value that ends in a millisecond. -/
inductive Disputed (now : Instant) (ms : Int) : Prop
  /-- The millisecond of the instant has begun to pass: the value is over for a look-up alone. -/
  | begun (regular : now.nanos < 1000000000) (covered : inCalendar (ms / 1000) = true)
    (same : ms = now.toMillis) (past : now.nanos % 1000000 ≠ 0)
  /-- Within a leap second, the milliseconds of the next second are over for a purge alone. -/
  | leap (inside : 1000000000 ≤ now.nanos) (covered : inCalendar (ms / 1000) = true)
    (next : (now.seconds + 1) * 1000 ≤ ms) (ahead : ms < now.toMillis)
  /-- The end is read as the start of 1970. -/
  | misread (outside : inCalendar (ms / 1000) = false)
    (differ : ¬ (ms < now.toMillis ↔ epoch.isBefore now = true))

/-- A purge looks for ends in earlier milliseconds, and a look-up for ends before the instant. -/
theorem earlier_iff_isBefore (now : Instant) (ms : Int) :
    (ms < now.toMillis ↔ (ofMillis ms).isBefore now = true) ↔ ¬ Disputed now ms := by
  cases covered : inCalendar (ms / 1000) with
  | false =>
    -- A count outside the calendar is read as the epoch, but purged by its number.
    have read : ofMillis ms = epoch := by
      rw [ofMillis, covered]
      rfl
    rw [read]
    constructor
    · rintro same (⟨-, inside, -, -⟩ | ⟨-, inside, -, -⟩ | ⟨-, differ⟩)
      · rw [covered] at inside
        cases inside
      · rw [covered] at inside
        cases inside
      · exact differ same
    · intro undisputed
      by_contra differ
      exact undisputed (.misread covered differ)
  | true =>
    rw [isBefore_ofMillis_iff covered]
    constructor
    · rintro same (⟨regular, -, here, past⟩ | ⟨inside, -, next, ahead⟩ | ⟨outside, -⟩)
      · simp only [toMillis] at same here
        omega
      · simp only [toMillis] at same ahead
        omega
      · rw [covered] at outside
        cases outside
    · -- Within the calendar the two differ in the millisecond of the instant, or in a leap second.
      intro undisputed
      by_cases regular : now.nanos < 1000000000
      · have other : ¬ (ms = now.toMillis ∧ now.nanos % 1000000 ≠ 0) :=
          fun both => undisputed (.begun regular covered both.1 both.2)
        simp only [toMillis] at other ⊢
        omega
      · have other : ¬ ((now.seconds + 1) * 1000 ≤ ms ∧ ms < now.toMillis) :=
          fun both => undisputed (.leap (not_lt.mp regular) covered both.1 both.2)
        simp only [toMillis] at other ⊢
        omega

end Time.Instant

/-! ## Rows -/

theorem Table.Place.integer?_eq_ok_iff {p : Place} {c : Cell} {n : Option Int} :
    p.integer? c = .ok n ↔ c = .ofOption .integer n := by
  cases c <;> cases n <;>
    simp [Place.integer?, Place.integer, Place.wrongKind, Except.map, Cell.ofOption]

/-- The end of an entry is the one that its row holds. -/
theorem CacheEntry.expiresAt_of_read {r : Row} {x : CacheEntry}
    (read : CacheEntry.ofRow r = .ok x) :
    ∃ ms, r.cell 3 = .ofOption .integer ms ∧ x.expiresAt = ms.map .ofMillis := by
  obtain ⟨key, -, read⟩ := Except.bind_eq_ok read
  obtain ⟨value, -, read⟩ := Except.bind_eq_ok read
  obtain ⟨storedAt, -, read⟩ := Except.bind_eq_ok read
  obtain ⟨ends, cell, read⟩ := Except.bind_eq_ok read
  obtain ⟨payload, -, read⟩ := Except.bind_eq_ok read
  cases read
  exact ⟨ends, Place.integer?_eq_ok_iff.mp (Error.ofTable_eq_ok_iff.mp cell), rfl⟩

namespace Table.Row

/-- A purge at an instant removes the row. -/
def isPurgedAt (now : Instant) (r : Row) : Bool :=
  r.cell 3 != .null && (r.cell 3).compareTo (.integer now.toMillis) == .lt

/-- A purge and a look-up at an instant disagree about the row. -/
def DisputedAt (r : Row) (now : Instant) : Prop :=
  ∃ ms, r.cell 3 = .integer ms ∧ Instant.Disputed now ms

/-- A row that is read is purged exactly if its entry is expired, unless its end is disputed. -/
theorem isPurgedAt_iff_isExpiredAt {r : Row} {x : CacheEntry} (read : CacheEntry.ofRow r = .ok x)
    (now : Instant) :
    (r.isPurgedAt now = true ↔ x.isExpiredAt now = true) ↔ ¬ r.DisputedAt now := by
  obtain ⟨ends, cell, expires⟩ := CacheEntry.expiresAt_of_read read
  rw [isPurgedAt, CacheEntry.isExpiredAt, DisputedAt, cell, expires]
  cases ends with
  | none => simp [Cell.ofOption]
  | some ms =>
    have purged : (Cell.integer ms != .null &&
        (Cell.integer ms).compareTo (.integer now.toMillis) == .lt) = true ↔
          ms < now.toMillis := by
      simp [Cell.compareTo, compare_lt_iff_lt]
    simp only [Cell.ofOption, Option.map_some, purged, Cell.integer.injEq, exists_eq_left']
    exact Instant.earlier_iff_isBefore now ms

end Table.Row

/-! ## Purging and looking up -/

namespace Database

variable {db : Database}

theorem Unguarded.deleteExpired (unguarded : db.Unguarded .cache) (now : Instant) :
    db.deleteExpired now.toMillis =
      .ok (db.withRows .cache ((db.rowsOf .cache).filter fun r => !r.isPurgedAt now),
        (db.rowsOf .cache).countP (·.isPurgedAt now)) := by
  rw [Database.deleteExpired, unguarded.delete]
  rfl

theorem Unguarded.cached_of_absent (unguarded : db.Unguarded .cache) {key : String} (now : Instant)
    (absent : (db.rowsOf .cache).find? (·.hasKey key) = none) :
    db.cached key now = .ok (db, none) := by
  rw [Database.cached, cacheEntryOf?, unguarded.row?, absent]
  rfl

/-- A row that is found gives its value, or is removed as it is expired. -/
theorem Unguarded.cached_of_found (unguarded : db.Unguarded .cache) {key : String} (now : Instant)
    {r : Row} {x : CacheEntry} (found : (db.rowsOf .cache).find? (·.hasKey key) = some r)
    (read : CacheEntry.ofRow r = .ok x) :
    ∃ db', db.cached key now = .ok (db', if x.isExpiredAt now then none else some x.value) := by
  have looked : db.cacheEntryOf? key = .ok (some x) := by
    rw [cacheEntryOf?, unguarded.row?, found]
    exact congrArg (Except.map some) read
  have deleted : db.deleteKey .cache key = _ := unguarded.deleteKey key
  rw [Database.cached, looked]
  cases expired : x.isExpiredAt now with
  | false => exact ⟨db, by simp only [bind, Except.bind, expired]; rfl⟩
  | true =>
    simp only [bind, Except.bind, expired, if_true, deleteCacheEntry, deleted]
    exact ⟨_, rfl⟩

/-- A row that a purge has left gives its value, unless its end is disputed. -/
theorem Unguarded.cached_of_left (unguarded : db.Unguarded .cache) {key : String} {now : Instant}
    {r : Row} {x : CacheEntry} (found : (db.rowsOf .cache).find? (·.hasKey key) = some r)
    (read : CacheEntry.ofRow r = .ok x) (kept : r.isPurgedAt now = false) :
    (r.DisputedAt now → (db.cached key now).map (·.2) = .ok none) ∧
      (¬ r.DisputedAt now → (db.cached key now).map (·.2) = .ok (some x.value)) := by
  obtain ⟨db', value⟩ := unguarded.cached_of_found now found read
  have agree := Row.isPurgedAt_iff_isExpiredAt read now
  rw [kept] at agree
  rw [value]
  cases expired : x.isExpiredAt now with
  | false =>
    have undisputed : ¬ r.DisputedAt now := agree.mp (by simp [expired])
    exact ⟨fun disputed => absurd disputed undisputed, fun _ => rfl⟩
  | true =>
    have disputed : r.DisputedAt now := by
      by_contra undisputed
      simpa [expired] using agree.mpr undisputed
    exact ⟨fun _ => rfl, fun undisputed => absurd disputed undisputed⟩

end Database

namespace Engine

variable {e : Engine}

/-- What a statement on an open store returns. -/
theorem change_of_open {α : Type} (isOpen : e.view.link.isSome = true) (now : Instant)
    (f : Database → Except Error (Database × α)) :
    (e.change now f).2 = (f e.view.database).map (·.2) := by
  rw [change, access_of_open isOpen, Database.atomically]
  cases f e.view.database <;> rfl

theorem purgeCache_yields (isOpen : e.view.link.isSome = true)
    (unguarded : e.view.database.Unguarded .cache) (now : Instant) :
    ∃ e', e.purgeCache now =
        (e', .ok ((e.view.database.rowsOf .cache).countP (·.isPurgedAt now))) ∧
      e'.view = e.view.withDatabase (e.view.database.withRows .cache
        ((e.view.database.rowsOf .cache).filter fun r => !r.isPurgedAt now)) := by
  refine ⟨_, ?_, view_setDatabase isOpen _⟩
  rw [purgeCache, change, access_of_open isOpen]
  simp only [Database.atomically, unguarded.deleteExpired]

end Engine

/-- On every table of cached values and at every instant a purge removes exactly the values that a
look-up takes for expired, but for those about whose ends the two disagree. So after a purge a
look-up at the same instant finds every value that is left, but for those; these it finds expired,
and of what is not left it finds nothing. -/
theorem purge_agrees_unless_disputed {e : Engine} (isOpen : e.view.link.isSome = true)
    (unguarded : e.view.database.Unguarded .cache) (now : Instant) :
    ∃ e' left removed, e.purgeCache now = (e', .ok removed) ∧
      e'.view = e.view.withDatabase (e.view.database.withRows .cache left) ∧
      left.Sublist (e.view.database.rowsOf .cache) ∧
      left.length + removed = (e.view.database.rowsOf .cache).length ∧
      (∀ r ∈ e.view.database.rowsOf .cache, ∀ x, CacheEntry.ofRow r = .ok x →
        ((r ∉ left ↔ x.isExpiredAt now = true) ↔ ¬ r.DisputedAt now)) ∧
      ∀ key,
        (left.find? (·.hasKey key) = none → (e'.cached key now).2 = .ok none) ∧
        ∀ r, left.find? (·.hasKey key) = some r → ∀ x, CacheEntry.ofRow r = .ok x →
          (r.DisputedAt now → (e'.cached key now).2 = .ok none) ∧
          (¬ r.DisputedAt now → (e'.cached key now).2 = .ok (some x.value)) := by
  obtain ⟨e', run, view⟩ := Engine.purgeCache_yields isOpen unguarded now
  refine ⟨e', _, _, run, view, List.filter_sublist, ?_, fun r member x read => ?_, fun key => ?_⟩
  · rw [← List.countP_eq_length_filter, Nat.add_comm,
      (e.view.database.rowsOf .cache).length_eq_countP_add_countP (·.isPurgedAt now)]
    congr 1
    exact List.countP_congr fun r _ => by simp
  · rw [← Row.isPurgedAt_iff_isExpiredAt read now]
    simp [List.mem_filter, member]
  · -- The look-up meets the table that the purge has left.
    have isOpen' : e'.view.link.isSome = true := by
      rw [view]
      exact isOpen
    have database : e'.view.database = e.view.database.withRows .cache
        ((e.view.database.rowsOf .cache).filter fun r => !r.isPurgedAt now) :=
      congrArg View.database view
    have unguarded' : e'.view.database.Unguarded .cache := by
      rw [database]
      exact .withRows _ _ _
    have rows : e'.view.database.rowsOf .cache =
        (e.view.database.rowsOf .cache).filter fun r => !r.isPurgedAt now := by
      rw [database, Database.rowsOf_withRows_self]
    have looked : (e'.cached key now).2 = (e'.view.database.cached key now).map (·.2) :=
      Engine.change_of_open isOpen' now _
    rw [looked, ← rows]
    refine ⟨fun absent => ?_, fun r found x read => ?_⟩
    · rw [unguarded'.cached_of_absent now absent]
      rfl
    · have kept : r.isPurgedAt now = false := by
        have member := List.mem_of_find?_eq_some found
        rw [rows] at member
        simpa using (List.mem_filter.mp member).2
      exact unguarded'.cached_of_left found read kept

namespace Engine

/-- One value ends with the first second, one a millisecond before that, and one stays. -/
def sampleEnds : Engine :=
  let e := (inMemory .default true).cacheValue "a" (.bool true) (some ⟨1, 0⟩) .epoch
  let e := e.cacheValue "b" (.bool false) (some ⟨0, 999000000⟩) .epoch
  e.cacheValue "c" .null none .epoch

def sampleEnding : CacheEntry := ⟨"a", .bool true, .epoch, some ⟨1, 0⟩⟩

def sampleLasting : CacheEntry := ⟨"c", .null, .epoch, none⟩

/-- Half a microsecond after the first second. -/
def sampleMoment : Instant := ⟨1, 500⟩

def sampleEndingRow : Row := ⟨1, sampleEnding.toRow⟩

def sampleLastingRow : Row := ⟨3, sampleLasting.toRow⟩

theorem sampleEnding_read : CacheEntry.ofRow sampleEndingRow = .ok sampleEnding :=
  CacheEntry.ofRow_of_cells (x := sampleEnding) rfl ⟨by decide +kernel, by decide⟩

theorem sampleLasting_read : CacheEntry.ofRow sampleLastingRow = .ok sampleLasting :=
  CacheEntry.ofRow_of_cells (x := sampleLasting) rfl ⟨by decide +kernel, by decide⟩

theorem sampleEnds_open : sampleEnds.view.link.isSome = true := by decide +kernel

theorem sampleEnds_unguarded : sampleEnds.view.database.Unguarded .cache := by
  have table : sampleEnds.view.database.get? .cache =
      some (ofRows (sampleEnds.view.database.rowsOf .cache)) := by
    decide +kernel
  exact table

end Engine

/-- The theorem at a moment in the millisecond in which one value ends. -/
theorem ending_value_purged_too_late :
    ∃ e', Engine.sampleEnds.purgeCache Engine.sampleMoment = (e', .ok 1) ∧
      keysOf (e'.view.database.rowsOf .cache) = [.text "a", .text "c"] ∧
      (e'.cached "a" Engine.sampleMoment).2 = .ok none ∧
      (e'.cached "c" Engine.sampleMoment).2 = .ok (some .null) := by
  obtain ⟨e', left, removed, run, view, -, -, -, found⟩ := purge_agrees_unless_disputed
    Engine.sampleEnds_open Engine.sampleEnds_unguarded Engine.sampleMoment
  have ran : (Engine.sampleEnds.purgeCache Engine.sampleMoment).2 = .ok 1 := by decide +kernel
  have rows : (Engine.sampleEnds.purgeCache Engine.sampleMoment).1.view.database.rowsOf .cache =
      [Engine.sampleEndingRow, Engine.sampleLastingRow] := by
    decide +kernel
  rw [run] at ran rows
  obtain rfl : removed = 1 := Except.ok.inj ran
  obtain rfl : left = [Engine.sampleEndingRow, Engine.sampleLastingRow] := by
    have database : e'.view.database = Engine.sampleEnds.view.database.withRows .cache left :=
      congrArg View.database view
    rw [← rows, database, Database.rowsOf_withRows_self]
  refine ⟨e', run, by rw [rows]; decide, ?_, ?_⟩
  · have disputed : Engine.sampleEndingRow.DisputedAt Engine.sampleMoment :=
      ⟨1000, rfl, .begun (by decide) (by decide) (by decide) (by decide)⟩
    exact ((found "a").2 _ (by decide) _ Engine.sampleEnding_read).1 disputed
  · have undisputed : ¬ Engine.sampleLastingRow.DisputedAt Engine.sampleMoment := by
      rintro ⟨ms, cell, -⟩
      cases cell
    exact ((found "c").2 _ (by decide) _ Engine.sampleLasting_read).2 undisputed

/-- A purge may leave a value that a look-up at the same instant takes for expired. -/
theorem expired_value_left_by_purge :
    ¬ ∀ (e : Engine), e.view.link.isSome = true → e.view.database.Unguarded .cache →
      ∀ now : Instant, ∀ r ∈ e.view.database.rowsOf .cache, ∀ x, CacheEntry.ofRow r = .ok x →
        (r ∉ (e.purgeCache now).1.view.database.rowsOf .cache ↔ x.isExpiredAt now = true) := by
  intro agree
  have kept : Engine.sampleEndingRow ∈
      (Engine.sampleEnds.purgeCache Engine.sampleMoment).1.view.database.rowsOf .cache := by
    decide +kernel
  have purged := agree _ Engine.sampleEnds_open Engine.sampleEnds_unguarded Engine.sampleMoment
    Engine.sampleEndingRow (by decide +kernel) _ Engine.sampleEnding_read
  exact purged.mpr (by decide) kept

end Outbox
