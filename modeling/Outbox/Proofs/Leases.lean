import Mathlib.Data.List.Induction
import Outbox.Engine.Records
import Outbox.Proofs.Instants
import Outbox.Proofs.Launch
import Outbox.Proofs.Layout

/-!
# Cached values as leases

What is cached for a key is the latest value that was put there and not removed since, until its
time is over. Values whose time is over go away at different moments: one by one when someone asks
for them, and all together when the cache is purged, which compares whole milliseconds. The
invariant is that a row may be missing only if the time of its value is over already; as the clock
does not go back, nobody can tell when it went.
-/
namespace Outbox

open Table Time

/-! ## Leases -/

/-- A value, and the last nanosecond in which it is there. Without one it stays. -/
structure Lease where
  value : Json
  last : Option Int

/-- The value is gone at a nanosecond. -/
def Lease.IsOver (lease : Lease) (moment : Int) : Prop := ∃ last ∈ lease.last, last < moment

instance (lease : Lease) (moment : Int) : Decidable (lease.IsOver moment) :=
  match h : lease.last with
  | none => .isFalse (by simp [Lease.IsOver, h])
  | some last => decidable_of_iff (last < moment) (by simp [Lease.IsOver, h])

/-- A value can be put for a span that counts in milliseconds and ends within the calendar. -/
def Accepted (start : Instant) : Option Instant.Span → Prop
  | none => True
  | some span =>
    span.count ≤ Instant.longestSpan ∧
      Instant.inCalendar ((start.count + span.count) / 1000000000) = true

instance (start : Instant) : (ttl : Option Instant.Span) → Decidable (Accepted start ttl)
  | none => .isTrue trivial
  | some _ => inferInstanceAs (Decidable (_ ∧ _))

/-- The end of what is put for a span, cut down to milliseconds. -/
def lastMoment (start : Instant) (ttl : Option Instant.Span) : Option Int :=
  ttl.map fun span => (start.count + span.count) / 1000000 * 1000000

/-- What is done with the cache. -/
inductive CacheStep where
  | put (key : String) (value : Json) (ttl : Option Instant.Span)
  | get (key : String)
  | remove (key : String)
  | clear
  | purge

namespace CacheStep

/-- A span as it is given, and a value that can be read back. -/
def IsPlain : CacheStep → Prop
  | put _ value ttl => value.Faithful ∧ ∀ span ∈ ttl, span.nanos < 1000000000
  | _ => True

instance : (step : CacheStep) → Decidable step.IsPlain
  | put _ value ttl =>
    inferInstanceAs (Decidable (value.Faithful ∧ ∀ span ∈ ttl, span.nanos < 1000000000))
  | get _ | remove _ | clear | purge => .isTrue trivial

/-- The steps that change what is cached; the others look, and remove what is over. -/
def writes : CacheStep → Bool
  | put .. | remove _ | clear => true
  | get _ | purge => false

/-- The step decides anew what is cached for a key. -/
def Settles (now : Instant) (key : String) : CacheStep → Prop
  | put k _ ttl => k = key ∧ Accepted now ttl
  | remove k => k = key
  | clear => True
  | get _ | purge => False

instance (now : Instant) (key : String) : (step : CacheStep) → Decidable (step.Settles now key)
  | put _ _ _ => inferInstanceAs (Decidable (_ ∧ _))
  | remove _ => inferInstanceAs (Decidable (_ = _))
  | clear => .isTrue trivial
  | get _ | purge => .isFalse id

/-- The leases after a step. A span that is not accepted leaves the older lease in force. -/
def apply (now : Instant) (leases : String → Option Lease) : CacheStep → String → Option Lease
  | put key value ttl =>
    if Accepted now ttl then Function.update leases key (some ⟨value, lastMoment now ttl⟩)
    else leases
  | remove key => Function.update leases key none
  | clear => fun _ => none
  | get _ | purge => leases

theorem apply_of_not_settles {now : Instant} {key : String} {step : CacheStep}
    (other : ¬ step.Settles now key) (leases : String → Option Lease) :
    step.apply now leases key = leases key := by
  cases step with
  | put k value ttl =>
    rw [apply]
    split
    next accepted =>
      have ne : key ≠ k := fun same => other ⟨same.symm, accepted⟩
      rw [Function.update_of_ne ne]
    · rfl
  | remove k =>
    have ne : key ≠ k := fun same => other same.symm
    rw [apply, Function.update_of_ne ne]
  | clear => exact absurd trivial other
  | get _ | purge => rfl

end CacheStep

/-- The leases after some steps. -/
def leasesAfter (leases : String → Option Lease) (steps : List (Instant × CacheStep)) :
    String → Option Lease :=
  steps.foldl (fun leases step => step.2.apply step.1 leases) leases

theorem leasesAfter_of_not_settled {key : String} {steps : List (Instant × CacheStep)}
    (others : ∀ step ∈ steps, ¬ step.2.Settles step.1 key) (leases : String → Option Lease) :
    leasesAfter leases steps key = leases key := by
  induction steps generalizing leases with
  | nil => rfl
  | cons step steps ih =>
    have behind := ih (fun other member => others other (List.mem_cons_of_mem _ member))
      (step.2.apply step.1 leases)
    exact behind.trans (CacheStep.apply_of_not_settles (others step List.mem_cons_self) leases)

/-- The lease of a key was put by the latest accepted step for the key that nothing removed. -/
theorem leasesAfter_eq_some_iff {key : String} {steps : List (Instant × CacheStep)}
    {lease : Lease} :
    leasesAfter (fun _ => none) steps key = some lease ↔
      ∃ before start ttl after, steps = before ++ (start, .put key lease.value ttl) :: after ∧
        Accepted start ttl ∧ lease.last = lastMoment start ttl ∧
        ∀ step ∈ after, ¬ step.2.Settles step.1 key := by
  constructor
  · -- The step that put the lease is looked for from the end.
    induction steps using List.reverseRecOn with
    | nil => intro found; cases found
    | append_singleton steps step ih =>
      intro found
      rw [leasesAfter, List.foldl_concat, ← leasesAfter] at found
      obtain ⟨now, step⟩ := step
      by_cases settles : step.Settles now key
      · cases step with
        | put k value ttl =>
          obtain ⟨rfl, accepted⟩ := settles
          rw [CacheStep.apply, if_pos accepted, Function.update_self] at found
          cases found
          exact ⟨steps, now, ttl, [], rfl, accepted, rfl, fun _ none => by cases none⟩
        | remove k =>
          obtain rfl : k = key := settles
          rw [CacheStep.apply, Function.update_self] at found
          cases found
        | clear => cases found
        | get _ | purge => cases settles
      · rw [CacheStep.apply_of_not_settles settles] at found
        obtain ⟨before, start, ttl, after, rfl, accepted, last, others⟩ := ih found
        refine ⟨before, start, ttl, after ++ [(now, step)], by simp, accepted, last, ?_⟩
        intro other member
        rcases List.mem_append.mp member with earlier | latest
        · exact others other earlier
        · rw [List.mem_singleton.mp latest]
          exact settles
  · rintro ⟨before, start, ttl, after, rfl, accepted, last, others⟩
    rw [leasesAfter, List.foldl_append, List.foldl_cons, ← leasesAfter,
      leasesAfter_of_not_settled others, CacheStep.apply, if_pos accepted, Function.update_self,
      ← last]

/-- Looking and purging have no part in what is cached. -/
theorem leasesAfter_filter_writes (leases : String → Option Lease)
    (steps : List (Instant × CacheStep)) :
    leasesAfter leases (steps.filter (·.2.writes)) = leasesAfter leases steps := by
  induction steps generalizing leases with
  | nil => rfl
  | cons step steps ih =>
    obtain ⟨now, step⟩ := step
    cases step with
    | put _ _ _ | remove _ | clear => exact ih _
    | get _ | purge => exact ih leases

/-! ## Entries -/

namespace CacheEntry

def layout : Layout CacheEntry where
  toRow := toRow
  key := (·.key)
  rest := [1, 2, 3]
  key_first _ := rfl
  overwrite {x y} same := by
    rw [toRow, same]
    rfl

/-- The lease that an entry stands for once it is stored. -/
def lease (x : CacheEntry) : Lease :=
  ⟨x.value, x.expiresAt.map fun t => t.count / 1000000 * 1000000⟩

/-- An entry that can be stored and read back. -/
structure IsPlain (x : CacheEntry) : Prop where
  faithful : x.value.Faithful
  regular : ∀ t ∈ x.expiresAt, t.Regular

/-- An entry is made for a span exactly if the span is accepted. -/
theorem fresh_ends (now : Instant) (key : String) (value : Json) {ttl : Option Instant.Span}
    (short : ∀ span ∈ ttl, span.nanos < 1000000000) :
    (Accepted now ttl ∧ ∃ ends, fresh key value now ttl = .ok ⟨key, value, now, ends⟩ ∧
      (∀ t ∈ ends, t.Regular) ∧
      ends.map Instant.count = ttl.map fun span => now.count + span.count) ∨
    (¬ Accepted now ttl ∧ ∃ fault, fresh key value now ttl = .error fault) := by
  cases ttl with
  | none => exact .inl ⟨trivial, none, rfl, nofun, rfl⟩
  | some span =>
    -- The span is measured first, and then it is added to the time.
    have countable := Instant.Span.isCountable_iff (short span rfl)
    have sum : (∃ last, now.add? span = some last) ↔ _ := Instant.exists_add?_iff
    by_cases counts : span.isCountable = true
    · cases added : now.add? span with
      | none =>
        refine .inr ⟨fun accepted => ?_, ?_⟩
        · obtain ⟨last, there⟩ := sum.mpr accepted.2
          rw [added] at there
          cases there
        · simp [fresh, counts, added]
      | some last =>
        obtain ⟨regular, same⟩ := Instant.of_add? added
        refine .inl ⟨⟨countable.mp counts, sum.mp ⟨last, added⟩⟩, some last,
          by simp [fresh, counts, added], ?_, congrArg some same⟩
        rintro t here
        cases here
        exact regular
    · exact .inr ⟨fun accepted => counts (countable.mpr accepted.1), by simp [fresh, counts]⟩

/-- What is made for an accepted span stands for its lease. -/
theorem fresh_cases (now : Instant) {key : String} {value : Json} {ttl : Option Instant.Span}
    (plain : (CacheStep.put key value ttl).IsPlain) :
    (Accepted now ttl ∧ ∃ x, fresh key value now ttl = .ok x ∧ x.key = key ∧ x.IsPlain ∧
      x.lease = ⟨value, lastMoment now ttl⟩) ∨
    (¬ Accepted now ttl ∧ ∃ fault, fresh key value now ttl = .error fault) := by
  obtain ⟨faithful, short⟩ := plain
  refine (fresh_ends now key value short).imp_left ?_
  rintro ⟨accepted, ends, made, regular, same⟩
  refine ⟨accepted, _, made, rfl, ⟨faithful, regular⟩, ?_⟩
  have last := congrArg (Option.map (· / 1000000 * 1000000)) same
  simp only [Option.map_map, Function.comp_def] at last
  simp only [lease, lastMoment, last]

/-- What an entry is read back as. -/
def stored (x : CacheEntry) : CacheEntry :=
  ⟨x.key, x.value, .ofMillis x.storedAt.toMillis, x.expiresAt.map fun t => .ofMillis t.toMillis⟩

theorem ofRow_of_cells {r : Row} {x : CacheEntry} (made : r.cells = x.toRow) (plain : x.IsPlain) :
    CacheEntry.ofRow r = .ok x.stored := by
  obtain ⟨number, _⟩ := r
  obtain rfl := made
  have payload : parsePayload x.value.text = .ok x.value :=
    parsePayload_eq_ok_iff.mpr plain.faithful
  obtain ⟨key, value, storedAt, _ | last⟩ := x <;>
  · simp only [ofRow, Row.cell, toRow, Cell.ofOption, List.getElem?_cons_zero,
      List.getElem?_cons_succ, Option.getD_some, Place.text, Place.integer, Place.integer?,
      Error.ofTable]
    change (parsePayload value.text >>= _) = _
    rw [payload]
    rfl

/-- An entry is taken for expired exactly when its lease is over. -/
theorem isExpiredAt_stored {x : CacheEntry} (regular : ∀ t ∈ x.expiresAt, t.Regular)
    {now : Instant} (plain_now : now.nanos < 1000000000) :
    x.stored.isExpiredAt now = true ↔ x.lease.IsOver now.count := by
  unfold isExpiredAt stored lease Lease.IsOver
  cases ends : x.expiresAt with
  | none => simp
  | some last =>
    have regular := regular last ends
    simp only [Option.map_some]
    rw [Instant.isBefore_iff (Instant.regular_ofMillis _).nanos_lt plain_now, regular.count_stored]
    simp

end CacheEntry

/-! ## The table -/

/-- The entries of a table account for the leases at a moment: each of them is the lease of its key,
and one that is missing is over. -/
structure Leased (moment : Int) (leases : String → Option Lease)
    (entries : String → Option CacheEntry) (rows : List Row) : Prop where
  fills : Fills CacheEntry.layout rows entries
  plain : ∀ k x, entries k = some x → x.IsPlain
  current : ∀ k x, entries k = some x → leases k = some x.lease
  missing : ∀ k lease, leases k = some lease → entries k = none → lease.IsOver moment

namespace Leased

variable {moment : Int} {leases : String → Option Lease} {entries : String → Option CacheEntry}
  {rows : List Row}

theorem nil (moment : Int) : Leased moment (fun _ => none) (fun _ => none) [] where
  fills := .nil _
  plain _ _ none := by cases none
  current _ _ none := by cases none
  missing _ _ none := by cases none

theorem later (leased : Leased moment leases entries rows) {now : Int} (le : moment ≤ now) :
    Leased now leases entries rows where
  fills := leased.fills
  plain := leased.plain
  current := leased.current
  missing k lease there none := by
    obtain ⟨last, ends, past⟩ := leased.missing k lease there none
    exact ⟨last, ends, past.trans_le le⟩

/-- What is cached for a key is decided anew, together with its entry. -/
theorem settle (leased : Leased moment leases entries rows) (key : String) (x : Option CacheEntry)
    (plain : ∀ y ∈ x, y.IsPlain) {rows' : List Row}
    (fills : Fills CacheEntry.layout rows' (Function.update entries key x)) :
    Leased moment (Function.update leases key (x.map (·.lease))) (Function.update entries key x)
      rows' where
  fills := fills
  plain k y there := by
    rw [Function.update_apply] at there
    split at there
    · exact plain y there
    · exact leased.plain k y there
  current k y there := by
    rw [Function.update_apply] at there ⊢
    split at there
    next same => rw [if_pos same, there, Option.map_some]
    next other =>
      rw [if_neg other]
      exact leased.current k y there
  missing k lease there none := by
    rw [Function.update_apply] at there none
    split at there
    next same =>
      rw [if_pos same] at none
      rw [none] at there
      cases there
    next other =>
      rw [if_neg other] at none
      exact leased.missing k lease there none

theorem put (leased : Leased moment leases entries rows) {x : CacheEntry} (plain : x.IsPlain) :
    Leased moment (Function.update leases x.key (some x.lease))
      (Function.update entries x.key (some x)) (upserted [1, 2, 3] x.key x.toRow rows) := by
  refine leased.settle x.key (some x) (fun y same => ?_) (leased.fills.upserted x)
  cases same
  exact plain

theorem remove (leased : Leased moment leases entries rows) (key : String) :
    Leased moment (Function.update leases key none) (Function.update entries key none)
      (without key rows) :=
  leased.settle key none nofun (leased.fills.without key)

/-- Entries whose time is over may go away at any moment. -/
theorem lose (leased : Leased moment leases entries rows) {p : Row → Bool} {q : CacheEntry → Bool}
    (same : ∀ r x, r.cells = x.toRow → p r = q x)
    (ended : ∀ k x, entries k = some x → q x = false → x.lease.IsOver moment) :
    Leased moment leases (fun k => (entries k).filter q) (rows.filter p) where
  fills := leased.fills.filter same
  plain k x there := leased.plain k x (Option.filter_eq_some_iff.mp there).1
  current k x there := leased.current k x (Option.filter_eq_some_iff.mp there).1
  missing k lease there none := by
    cases entry : entries k with
    | none => exact leased.missing k lease there entry
    | some x =>
      -- It was there until now.
      obtain rfl : x.lease = lease :=
        Option.some.inj ((leased.current k x entry).symm.trans there)
      refine ended k x entry ?_
      simpa [entry] using none

/-- The row of a key goes away, as its time is over. -/
theorem evict (leased : Leased moment leases entries rows) {key : String} {x : CacheEntry}
    (entry : entries key = some x) (gone : x.lease.IsOver moment) :
    Leased moment leases (fun k => (entries k).filter (·.key != key)) (without key rows) := by
  refine leased.lose (fun r y made => ?_) fun k y there other => ?_
  · exact Layout.not_hasKey (L := CacheEntry.layout) made key
  · -- No entry is lost but that of the key.
    have same : y.key = key := by simpa using other
    obtain rfl : k = key := (leased.fills.all k y there).1.symm.trans same
    rw [entry] at there
    cases there
    exact gone

/-- The value of a key that is there at a moment. -/
def found (leases : String → Option Lease) (key : String) (moment : Int) : Option Json :=
  (leases key).bind fun lease => if lease.IsOver moment then none else some lease.value

/-- What is there has an entry, as only entries that are over are missing. -/
theorem found_eq (leased : Leased moment leases entries rows) (key : String) :
    found leases key moment =
      (entries key).bind fun x => if x.lease.IsOver moment then none else some x.value := by
  cases entry : entries key with
  | none =>
    rw [found]
    cases there : leases key with
    | none => rfl
    | some lease => exact if_pos (leased.missing key lease there entry)
  | some x =>
    rw [found, leased.current key x entry]
    rfl

/-- The entry of a key is read from its row. -/
theorem looked (leased : Leased moment leases entries rows) {db : Database}
    (unguarded : db.Unguarded .cache) (same : db.rowsOf .cache = rows) (key : String) :
    db.cacheEntryOf? key = .ok ((entries key).map CacheEntry.stored) := by
  subst same
  rw [Database.cacheEntryOf?, unguarded.row?]
  rcases leased.fills.find?_cases key with ⟨absent, none⟩ | ⟨r, x, present, entry, made⟩
  · rw [absent, none]
    rfl
  · rw [present, entry]
    have read := CacheEntry.ofRow_of_cells made (leased.plain key x entry)
    exact congrArg (Except.map some) read

/-- A look-up finds what is there; where it finds nothing, no row is left. -/
theorem cached (leased : Leased moment leases entries rows) {db : Database}
    (unguarded : db.Unguarded .cache) (same : db.rowsOf .cache = rows) {now : Instant}
    (plain : now.nanos < 1000000000) (later : moment ≤ now.count) (key : String) :
    ∃ rows' entries',
      db.cached key now = .ok (db.withRows .cache rows', found leases key now.count) ∧
      Leased now.count leases entries' rows' ∧
      (found leases key now.count = none → .text key ∉ keysOf rows') := by
  subst same
  -- Time has passed since the latest step, and some leases may be over by now.
  have leased := leased.later later
  have looked := leased.looked unguarded rfl key
  have value := leased.found_eq key
  cases entry : entries key with
  | none =>
    rw [entry] at looked value
    refine ⟨_, entries, ?_, leased, fun _ => ?_⟩
    · rw [value, unguarded.withRows_self, Database.cached, looked]
      rfl
    · rw [leased.fills.mem_keysOf_iff, entry]
      simp
  | some x =>
    rw [entry] at looked value
    rw [Option.map_some] at looked
    rw [Option.bind_some] at value
    have expired := CacheEntry.isExpiredAt_stored (leased.plain key x entry).regular plain
    by_cases gone : x.lease.IsOver now.count
    · -- The row is deleted on this occasion.
      rw [if_pos gone] at value
      have deleted : db.deleteKey .cache key = _ := unguarded.deleteKey key
      refine ⟨without key (db.rowsOf .cache), _, ?_, leased.evict entry gone,
        fun _ taken => (mem_keysOf_without.mp taken).2 rfl⟩
      rw [value, Database.cached, looked]
      simp only [bind, Except.bind, expired.mpr gone, if_true, Database.deleteCacheEntry, deleted]
      rfl
    · rw [if_neg gone] at value
      refine ⟨_, entries, ?_, leased, fun none => by rw [value] at none; cases none⟩
      rw [value, unguarded.withRows_self, Database.cached, looked]
      simp only [bind, Except.bind, mt expired.mp gone]
      rfl

/-- A purge removes entries that are over, if not all of them. -/
theorem purge (leased : Leased moment leases entries rows) {now : Instant}
    (later : moment ≤ now.count) :
    ∃ entries', Leased now.count leases entries' (rows.filter fun r =>
      !(r.cell 3 != .null && (r.cell 3).compareTo (.integer now.toMillis) == .lt)) := by
  refine ⟨_, (leased.later later).lose
    (q := fun x => !(x.expiresAt.any fun t => t.toMillis < now.toMillis)) (fun r x made => ?_)
    fun k x there ended => ?_⟩
  · have cell : r.cell 3 = .ofOption (fun t => .integer t.toMillis) x.expiresAt := by
      rw [Row.cell, made]
      rfl
    rw [cell]
    cases x.expiresAt with
    | none => rfl
    | some t =>
      rw [Bool.eq_iff_iff]
      simp [Cell.ofOption, Cell.compareTo, compare_lt_iff_lt]
  · cases ends : x.expiresAt with
    | none => simp [ends] at ended
    | some t =>
      -- An earlier millisecond is over for look-ups too.
      have before : t.toMillis < now.toMillis := by simpa [ends] using ended
      rw [Instant.toMillis_eq, Instant.toMillis_eq] at before
      refine ⟨t.count / 1000000 * 1000000, by rw [CacheEntry.lease, ends]; rfl, ?_⟩
      omega

end Leased

/-! ## Engines -/

namespace Engine

def cacheStep (e : Engine) (now : Instant) : CacheStep → Engine
  | .put key value ttl => e.cacheValue key value ttl now
  | .get key => (e.cached key now).1
  | .remove key => (e.change now fun db => db.deleteCacheEntry key).1
  | .clear => (e.change now Database.clearCache).1
  | .purge => (e.purgeCache now).1

def cacheAll (e : Engine) (steps : List (Instant × CacheStep)) : Engine :=
  steps.foldl (fun e step => e.cacheStep step.1 step.2) e

end Engine

/-- The cache of an engine accounts for the leases at a moment. -/
structure Caching (moment : Int) (leases : String → Option Lease) (e : Engine) : Prop where
  sound : e.view.Sound
  unguarded : e.view.database.Unguarded .cache
  leased : ∃ entries, Leased moment leases entries (e.view.database.rowsOf .cache)

namespace Caching

variable {moment : Int} {leases after : String → Option Lease} {e e' : Engine} {now : Instant}

/-- A statement on the cache leaves all else as it is. -/
theorem withRows (caching : Caching moment leases e) {rows : List Row}
    (view : e'.view = e.view.withDatabase (e.view.database.withRows .cache rows))
    {entries : String → Option CacheEntry} (leased : Leased now.count after entries rows) :
    Caching now.count after e' := by
  have database : e'.view.database = e.view.database.withRows .cache rows := by rw [view]; rfl
  refine ⟨?_, ?_, entries, ?_⟩
  · rw [view]
    exact caching.sound.withDatabase (caching.sound.healthy.withRows _ _)
  · rw [database]
    exact .withRows _ _ _
  · rw [database, Database.rowsOf_withRows_self]
    exact leased

theorem put (caching : Caching moment leases e) (later : moment ≤ now.count) {key : String}
    {value : Json} {ttl : Option Instant.Span} (plain : (CacheStep.put key value ttl).IsPlain) :
    Caching now.count ((CacheStep.put key value ttl).apply now leases)
      (e.cacheValue key value ttl now) := by
  obtain ⟨entries, leased⟩ := caching.leased
  rcases CacheEntry.fresh_cases now plain with
    ⟨accepted, x, made, rfl, entry, lease⟩ | ⟨refused, fault, made⟩
  · have stored : e.view.database.upsert .cache x.toRow [1, 2, 3] = _ :=
      caching.unguarded.upsert rfl rfl
    obtain ⟨e', run, view⟩ := Engine.change_yields caching.sound now
      (fun db => (db.putCacheEntry x).map fun db => (db, ())) (x := ()) (by
        rw [Database.putCacheEntry, stored]
        rfl)
    simp only [Engine.cacheValue, made, run, CacheStep.apply, if_pos accepted, ← lease]
    exact caching.withRows view ((leased.later later).put entry)
  · -- Nothing is written, and the older entry stays.
    simp only [Engine.cacheValue, made, CacheStep.apply, if_neg refused]
    have view := e.view_log (.warn ("⚠️ 写入缓存失败 key=" ++ key ++ ": " ++ fault.message))
    refine ⟨?_, ?_, entries, ?_⟩ <;> rw [view]
    · exact caching.sound
    · exact caching.unguarded
    · exact leased.later later

/-- A look-up finds what is there; where it finds nothing, no row is left. -/
theorem get (caching : Caching moment leases e) (later : moment ≤ now.count)
    (plain : now.nanos < 1000000000) (key : String) :
    (e.cached key now).2 = .ok (Leased.found leases key now.count) ∧
      Caching now.count leases (e.cached key now).1 ∧
      (Leased.found leases key now.count = none →
        .text key ∉ keysOf ((e.cached key now).1.view.database.rowsOf .cache)) := by
  obtain ⟨entries, leased⟩ := caching.leased
  obtain ⟨rows, entries', done, leased, gone⟩ :=
    leased.cached caching.unguarded rfl plain later key
  obtain ⟨e', run, view⟩ := Engine.change_yields caching.sound now
    (fun db => db.cached key now) done
  have looked : e.cached key now = _ := run
  rw [looked]
  refine ⟨rfl, caching.withRows view leased, fun none => ?_⟩
  rw [view]
  change .text key ∉ keysOf ((e.view.database.withRows .cache rows).rowsOf .cache)
  rw [Database.rowsOf_withRows_self]
  exact gone none

theorem remove (caching : Caching moment leases e) (later : moment ≤ now.count) (key : String) :
    Caching now.count (Function.update leases key none)
      (e.change now fun db => db.deleteCacheEntry key).1 := by
  obtain ⟨entries, leased⟩ := caching.leased
  have deleted : e.view.database.deleteKey .cache key = _ := caching.unguarded.deleteKey key
  obtain ⟨e', run, view⟩ := Engine.change_yields caching.sound now
    (fun db => db.deleteCacheEntry key) (by
      rw [Database.deleteCacheEntry, deleted]
      rfl)
  rw [run]
  exact caching.withRows view ((leased.later later).remove key)

theorem clear (caching : Caching moment leases e) :
    Caching now.count (fun _ => none) (e.change now Database.clearCache).1 := by
  obtain ⟨e', run, view⟩ := Engine.change_yields caching.sound now Database.clearCache (by
    rw [Database.clearCache, caching.unguarded.deleteAll]
    rfl)
  rw [run]
  exact caching.withRows view (.nil _)

theorem purge (caching : Caching moment leases e) (later : moment ≤ now.count) :
    Caching now.count leases (e.purgeCache now).1 := by
  obtain ⟨entries, leased⟩ := caching.leased
  obtain ⟨entries', left⟩ := leased.purge later
  obtain ⟨e', run, view⟩ := Engine.change_yields caching.sound now
    (fun db => db.deleteExpired now.toMillis) (by
      rw [Database.deleteExpired, caching.unguarded.delete]
      rfl)
  rw [Engine.purgeCache, run]
  exact caching.withRows view left

theorem step (caching : Caching moment leases e) (later : moment ≤ now.count)
    (plain_now : now.nanos < 1000000000) {step : CacheStep} (plain : step.IsPlain) :
    Caching now.count (step.apply now leases) (e.cacheStep now step) := by
  cases step with
  | put key value ttl => exact caching.put later plain
  | get key => exact (caching.get later plain_now key).2.1
  | remove key => exact caching.remove later key
  | clear => exact caching.clear
  | purge => exact caching.purge later

theorem all (caching : Caching moment leases e) {steps : List (Instant × CacheStep)}
    (plain : ∀ step ∈ steps, step.1.nanos < 1000000000 ∧ step.2.IsPlain)
    (later : ∀ step ∈ steps, moment ≤ step.1.count)
    (clocked : steps.Pairwise fun a b => a.1.count ≤ b.1.count)
    {last : Int} (ends : ∀ step ∈ steps, step.1.count ≤ last) (le : moment ≤ last) :
    ∃ moment' ≤ last, Caching moment' (leasesAfter leases steps) (e.cacheAll steps) := by
  induction steps generalizing moment leases e with
  | nil => exact ⟨moment, le, caching⟩
  | cons step steps ih =>
    obtain ⟨first, rest⟩ := List.pairwise_cons.mp clocked
    obtain ⟨plain_now, plain_step⟩ := plain step List.mem_cons_self
    -- From here on the invariant is about the moment of this step.
    have caching := caching.step (later step List.mem_cons_self) plain_now plain_step
    exact ih caching (fun other member => plain other (List.mem_cons_of_mem _ member)) first rest
      (fun other member => ends other (List.mem_cons_of_mem _ member))
      (ends step List.mem_cons_self)

/-- Steps on an empty cache. -/
theorem of_empty (sound : e.view.Sound) (unguarded : e.view.database.Unguarded .cache)
    (empty : e.view.database.rowsOf .cache = []) {steps : List (Instant × CacheStep)}
    (plain : ∀ step ∈ steps, step.1.nanos < 1000000000 ∧ step.2.IsPlain)
    (clocked : steps.Pairwise fun a b => a.1.count ≤ b.1.count)
    {last : Int} (ends : ∀ step ∈ steps, step.1.count ≤ last) :
    ∃ moment ≤ last, Caching moment (leasesAfter (fun _ => none) steps) (e.cacheAll steps) := by
  have start (moment : Int) : Caching moment (fun _ => none) e := by
    refine ⟨sound, unguarded, fun _ => none, ?_⟩
    rw [empty]
    exact .nil moment
  cases steps with
  | nil => exact ⟨last, le_rfl, start last⟩
  | cons step steps =>
    -- Nothing is cached, so the clock may as well start with the first step.
    refine (start step.1.count).all plain (fun other member => ?_) clocked ends
      (ends step List.mem_cons_self)
    rcases List.mem_cons.mp member with rfl | behind
    · exact le_rfl
    · exact (List.pairwise_cons.mp clocked).1 other behind

end Caching

/-- What is found is the value of the latest step that decided about the key. -/
theorem found_eq_some_iff {steps : List (Instant × CacheStep)} {key : String} {moment : Int}
    {v : Json} :
    Leased.found (leasesAfter (fun _ => none) steps) key moment = some v ↔
      ∃ before start ttl after, steps = before ++ (start, .put key v ttl) :: after ∧
        Accepted start ttl ∧ (∀ step ∈ after, ¬ step.2.Settles step.1 key) ∧
        ∀ last ∈ lastMoment start ttl, moment ≤ last := by
  rw [Leased.found, Option.bind_eq_some_iff]
  constructor
  · rintro ⟨lease, there, value⟩
    obtain ⟨before, start, ttl, after, same, accepted, ends, others⟩ :=
      leasesAfter_eq_some_iff.mp there
    split at value
    · cases value
    next still =>
      cases value
      refine ⟨before, start, ttl, after, same, accepted, others, fun last member => ?_⟩
      by_contra past
      exact still ⟨last, ends ▸ member, not_le.mp past⟩
  · rintro ⟨before, start, ttl, after, same, accepted, others, still⟩
    refine ⟨⟨v, lastMoment start ttl⟩, ?_, ?_⟩
    · exact leasesAfter_eq_some_iff.mpr ⟨before, start, ttl, after, same, accepted, rfl, others⟩
    · rw [if_neg]
      rintro ⟨last, member, past⟩
      exact absurd (still last member) (not_le.mpr past)

/-- After any steps on an empty cache, at instants that do not go back, a look-up finds a value
exactly if the latest step that decides about its key put that value, for a span that it accepts,
and the end of the span, cut down to milliseconds, is not past. Where nothing is found no row of the
key is left, and looking and purging before that make no difference. -/
theorem cached_iff_latest_put {e : Engine} (sound : e.view.Sound)
    (unguarded : e.view.database.Unguarded .cache)
    (empty : e.view.database.rowsOf .cache = []) {steps : List (Instant × CacheStep)}
    (plain : ∀ step ∈ steps, step.1.nanos < 1000000000 ∧ step.2.IsPlain)
    (clocked : steps.Pairwise fun a b => a.1.count ≤ b.1.count) {now : Instant}
    (plain_now : now.nanos < 1000000000) (later : ∀ step ∈ steps, step.1.count ≤ now.count)
    (key : String) :
    ∃ found, ((e.cacheAll steps).cached key now).2 = .ok found ∧
      (∀ v, found = some v ↔ ∃ before start ttl after,
        steps = before ++ (start, .put key v ttl) :: after ∧ Accepted start ttl ∧
        (∀ step ∈ after, ¬ step.2.Settles step.1 key) ∧
        ∀ last ∈ lastMoment start ttl, now.count ≤ last) ∧
      (found = none →
        .text key ∉ keysOf (((e.cacheAll steps).cached key now).1.view.database.rowsOf .cache)) ∧
      ((e.cacheAll (steps.filter (·.2.writes))).cached key now).2 = .ok found := by
  obtain ⟨moment, past, caching⟩ := Caching.of_empty sound unguarded empty plain clocked later
  obtain ⟨looked, -, gone⟩ := caching.get past plain_now key
  refine ⟨_, looked, fun v => found_eq_some_iff, gone, ?_⟩
  have part : (steps.filter (·.2.writes)).Sublist steps := List.filter_sublist
  -- Without looking and purging other rows are left, but they account for the same leases.
  obtain ⟨moment', past', caching'⟩ := Caching.of_empty sound unguarded empty
    (fun step member => plain step (part.subset member)) (clocked.sublist part)
    (fun step member => later step (part.subset member))
  rw [(caching'.get past' plain_now key).1, leasesAfter_filter_writes]

namespace Engine

/-- A value that stays is put over one that ends; a span that is too long is not accepted; another
value is over when it is asked for. -/
def sampleSteps : List (Instant × CacheStep) :=
  [(⟨0, 0⟩, .put "a" (.bool true) (some ⟨1, 0⟩)),
    (⟨0, 500000000⟩, .put "b" .null (some ⟨0, 1500000⟩)),
    (⟨0, 600000000⟩, .put "a" (.bool false) none),
    (⟨1, 0⟩, .purge),
    (⟨1, 0⟩, .put "a" .null (some ⟨10000000000000, 0⟩)),
    (⟨2, 0⟩, .put "c" (.bool true) (some ⟨0, 1500000⟩)),
    (⟨2, 1000000⟩, .get "c")]

end Engine

/-- The theorem at a value that was put over another one, and at one whose end is cut down to
milliseconds and past. -/
theorem renewed_value_found_ended_one_gone :
    ((((Engine.inMemory .default true).cacheAll Engine.sampleSteps).cached "a" ⟨2, 1200000⟩).2 =
      .ok (some (.bool false))) ∧
    ((((Engine.inMemory .default true).cacheAll Engine.sampleSteps).cached "c" ⟨2, 1200000⟩).2 =
      .ok none) ∧
    .text "c" ∉ keysOf ((((Engine.inMemory .default true).cacheAll Engine.sampleSteps).cached "c"
      ⟨2, 1200000⟩).1.view.database.rowsOf .cache) := by
  have unguarded : (Engine.inMemory .default true).view.database.get? .cache =
      some (ofRows ((Engine.inMemory .default true).view.database.rowsOf .cache)) := by
    decide +kernel
  have plain : ∀ step ∈ Engine.sampleSteps, step.1.nanos < 1000000000 ∧ step.2.IsPlain := by
    decide
  have later : ∀ step ∈ Engine.sampleSteps, step.1.count ≤ Instant.count ⟨2, 1200000⟩ := by
    decide
  have find := cached_iff_latest_put (Engine.inMemory_sound .default true) unguarded
    (by decide +kernel) plain (by decide) (by decide) later
  obtain ⟨found, looked, value, -, -⟩ := find "a"
  obtain ⟨other, looked', value', gone, -⟩ := find "c"
  have latest : found = some (.bool false) := (value _).mpr
    ⟨Engine.sampleSteps.take 2, ⟨0, 600000000⟩, none, Engine.sampleSteps.drop 3, rfl, trivial,
      by decide, nofun⟩
  have none : other = none := by
    rw [Option.eq_none_iff_forall_ne_some]
    intro v there
    have found := found_eq_some_iff.mpr ((value' v).mp there)
    have past : Leased.found (leasesAfter (fun _ => none) Engine.sampleSteps) "c"
        (Instant.count ⟨2, 1200000⟩) = none := by decide +kernel
    rw [past] at found
    cases found
  exact ⟨latest ▸ looked, none ▸ looked', gone none⟩

end Outbox
