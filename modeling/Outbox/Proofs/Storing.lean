import Outbox.Proofs.Instants
import Outbox.Proofs.Revival

/-!
# What is stored is what is read

A mutation that is inserted is read back as it was, by its id and in the list, with its time cut
down to a whole millisecond; a dead letter likewise with both its times, and pending. Cutting down
goes backwards in time for all instants of the calendar, those before 1970 too, and what has been
cut down is not cut again, so what was read back is written as the same row.

Nothing is moved in the list: a view is a stable sort by one column of integers, and a row that
comes last goes behind those with the same integer.
-/
namespace Outbox

open Table Time

/-! ## New rows in a list -/

section Sorting

variable {f : Row → Int} {r s : Row} {rows : List Row}

/-- A row goes to its place whether another one is among the others or not. -/
theorem orderedInsert_beside (sorted : List Row) :
    (sorted.takeWhile (f · ≤ f r) ++ r :: sorted.dropWhile (f · ≤ f r)).orderedInsert
        (fun a b => f a ≤ f b) s =
      (sorted.orderedInsert (fun a b => f a ≤ f b) s).takeWhile (f · ≤ f r) ++
        r :: (sorted.orderedInsert (fun a b => f a ≤ f b) s).dropWhile (f · ≤ f r) := by
  induction sorted with
  | nil =>
    by_cases before : f s ≤ f r
    · simp [before]
    · simp [before]
  | cons t rest ih =>
    by_cases low : f t ≤ f r
    · -- The first row stays first, unless the new one goes before it.
      by_cases first : f s ≤ f t
      · simp [low, first, first.trans low]
      · simp [low, first, ih]
    · by_cases first : f s ≤ f t
      · by_cases before : f s ≤ f r
        · simp [low, first, before]
        · simp [low, first, before]
      · have after : ¬ f s ≤ f r := by omega
        simp [low, first, after]

theorem insertionSort_concat :
    (rows ++ [r]).insertionSort (fun a b => f a ≤ f b) =
      (rows.insertionSort fun a b => f a ≤ f b).takeWhile (f · ≤ f r) ++
        r :: (rows.insertionSort fun a b => f a ≤ f b).dropWhile (f · ≤ f r) := by
  induction rows with
  | nil => rfl
  | cons s rows ih =>
    rw [List.cons_append, List.insertionSort_cons, List.insertionSort_cons, ih,
      orderedInsert_beside]

end Sorting

section Listing

variable {α : Type} {read : Row → Except Error α} {column : Nat} {rows : List Row}
  {cells : List Cell} {x : α}

/-- A new row that can be read comes somewhere into the list, and the others stay as they are. -/
theorem listed_added (timed : ∀ r x, read r = .ok x → ∃ n, r.cell column = .integer n)
    (new : ∀ number, read ⟨number, cells⟩ = .ok x) {xs : List α}
    (listed : (sortRows (rowLE [column]) rows).mapM read = .ok xs) :
    ∃ front back, xs = front ++ back ∧
      (sortRows (rowLE [column]) (added rows cells)).mapM read = .ok (front ++ x :: back) := by
  have each : ∀ r ∈ rows, ∃ n, r.cell column = .integer n := by
    intro r member
    obtain ⟨y, -, line⟩ := ok_of_mem_mapM listed ((sortRows_perm _ _).mem_iff.mpr member)
    exact timed r y line
  have all := forall_added each fun number => timed _ x (new number)
  rw [sortRows_eq_byInteger each] at listed
  rw [sortRows_eq_byInteger all, added, insertionSort_concat]
  obtain ⟨sorted, sorted_eq⟩ : ∃ sorted,
    sorted = rows.insertionSort fun a b => a.integerAt column ≤ b.integerAt column := ⟨_, rfl⟩
  obtain ⟨last, last_eq⟩ : ∃ last, last = Row.mk (ofRows rows).nextNumber cells := ⟨_, rfl⟩
  rw [← sorted_eq] at listed ⊢
  rw [← last_eq]
  -- The list is read in two parts, and the new row between them.
  have parts := List.takeWhile_append_dropWhile (l := sorted)
    (p := fun r => decide (r.integerAt column ≤ last.integerAt column))
  rw [← parts, List.mapM_append] at listed
  obtain ⟨front, before, listed⟩ := Except.bind_eq_ok listed
  obtain ⟨back, after, listed⟩ := Except.bind_eq_ok listed
  cases listed
  refine ⟨front, back, rfl, ?_⟩
  rw [List.mapM_append, before, List.mapM_cons, last_eq, new, ← last_eq, after]
  rfl

/-- A list with a new row in it is there only if it was there without it. -/
theorem listed_of_added {ys : List α}
    (listed : (sortRows (rowLE [column]) (added rows cells)).mapM read = .ok ys) :
    ∃ xs, (sortRows (rowLE [column]) rows).mapM read = .ok xs := by
  apply exists_mapM_eq_ok
  intro r member
  have there : r ∈ sortRows (rowLE [column]) (added rows cells) :=
    (sortRows_perm _ _).mem_iff.mpr
      (List.mem_append_left _ ((sortRows_perm _ _).mem_iff.mp member))
  obtain ⟨y, -, line⟩ := ok_of_mem_mapM listed there
  exact ⟨y, line⟩

end Listing

/-! ## Mutations -/

namespace Mutation

/-- A mutation as it is read back: its time is cut down to a whole millisecond. -/
theorem stored_eq {m : Mutation} (regular : m.enqueuedAt.Regular) :
    m.stored = { m with enqueuedAt := m.enqueuedAt.floorMillis } := by
  rw [stored, regular.ofMillis_toMillis]

/-- What was read back is written as the same row. -/
theorem toRow_stored {m : Mutation} (regular : m.enqueuedAt.Regular) :
    m.stored.toRow = m.toRow := by
  rw [stored_eq regular]
  simp only [toRow, cells, Instant.toMillis_floorMillis]

theorem ofRow_toRow_stored {m : Mutation} (faithful : m.payload.Faithful)
    (bound : m.retries ≤ maxRetryCount) (number : Nat) :
    Mutation.ofRow ⟨number, m.toRow⟩ = .ok m.stored :=
  Mutation.ofRow_toRow number faithful bound

theorem time_of_ofRow {r : Row} {m : Mutation} (read : Mutation.ofRow r = .ok m) :
    ∃ n, r.cell 5 = .integer n := by
  obtain ⟨ms, cell, -⟩ := (Mutation.ofRow_eq_ok_iff.mp read).1.enqueuedAt
  exact ⟨ms, cell⟩

end Mutation

/-! ## Dead letters -/

namespace DeadLetter

/-- A dead letter as it is read back. -/
def stored (l : DeadLetter) : DeadLetter :=
  ⟨{ l.mutation with
      enqueuedAt := l.mutation.enqueuedAt.floorMillis
      state := .pending }, l.failedAt.floorMillis⟩

theorem ofRow_toRow_stored {l : DeadLetter} (faithful : l.mutation.payload.Faithful)
    (bound : l.mutation.retries ≤ maxRetryCount) (queued : l.mutation.enqueuedAt.Regular)
    (failed : l.failedAt.Regular) (number : Nat) :
    DeadLetter.ofRow ⟨number, l.toRow⟩ = .ok l.stored := by
  rw [DeadLetter.ofRow_toRow number faithful bound, queued.ofMillis_toMillis,
    failed.ofMillis_toMillis]
  rfl

/-- What was read back is written as the same row. -/
theorem toRow_stored (l : DeadLetter) : l.stored.toRow = l.toRow := by
  simp only [stored, toRow, Mutation.cells, Instant.toMillis_floorMillis]

theorem time_of_ofRow {r : Row} {l : DeadLetter} (read : DeadLetter.ofRow r = .ok l) :
    ∃ n, r.cell 8 = .integer n := by
  obtain ⟨-, -, ms, cell, -⟩ := DeadLetter.ofRow_eq_ok_iff.mp read
  exact ⟨ms, cell⟩

end DeadLetter

/-! ## Tables -/

namespace Database

variable {db : Database}

theorem Unguarded.allDeadLetters (unguarded : db.Unguarded .deadLetters) :
    db.allDeadLetters = (sortRows (rowLE [8]) (db.rowsOf .deadLetters)).mapM DeadLetter.ofRow := by
  rw [Database.allDeadLetters, unguarded.selectAll]
  rfl

/-- A new mutation is read back from the queue as it is stored, and taking it out and putting in
what was read comes to the same. -/
theorem insertMutation_faithful (unguarded : db.Unguarded .queue) {m : Mutation}
    (faithful : m.payload.Faithful) (bound : m.retries ≤ maxRetryCount)
    (regular : m.enqueuedAt.Regular) (fresh : .text m.id ∉ keysOf (db.rowsOf .queue)) :
    ∃ db', db.insertMutation m = .ok db' ∧
      db'.mutation? m.id = .ok (some m.stored) ∧
      (∀ listed, db.mutations = .ok listed → ∃ front back, listed = front ++ back ∧
        db'.mutations = .ok (front ++ m.stored :: back)) ∧
      (∀ listed, db'.mutations = .ok listed → ∃ before, db.mutations = .ok before) ∧
      db'.deleteMutation m.id = .ok (db, true) ∧ db.insertMutation m.stored = .ok db' := by
  have after := Unguarded.withRows db .queue (added (db.rowsOf .queue) m.toRow)
  have new := Mutation.ofRow_toRow_stored faithful bound
  have found : (added (db.rowsOf .queue) m.toRow).find? (·.hasKey m.id) = some ⟨_, m.toRow⟩ :=
    find?_added_of_absent fresh rfl
  refine ⟨_, unguarded.insertMutation fresh, ?_, ?_, ?_, ?_, ?_⟩
  · rw [after.mutation?, rowsOf_withRows_self, found]
    exact congrArg (Except.map some) (new _)
  · intro listed before
    rw [unguarded.mutations] at before
    rw [after.mutations, rowsOf_withRows_self]
    exact listed_added (fun r x => Mutation.time_of_ofRow) new before
  · intro listed behind
    rw [after.mutations, rowsOf_withRows_self] at behind
    rw [unguarded.mutations]
    exact listed_of_added behind
  · have there : (added (db.rowsOf .queue) m.toRow).any (·.hasKey m.id) = true :=
      List.any_eq_true.mpr ⟨_, List.mem_of_find?_eq_some found, List.find?_some found⟩
    rw [after.deleteMutation, rowsOf_withRows_self, there, without_added_of_absent fresh rfl,
      withRows_withRows, unguarded.withRows_self]
  · -- Cutting a time down twice is cutting it down once, so the same row is written.
    have again : .text m.stored.id ∉ keysOf (db.rowsOf .queue) := fresh
    rw [unguarded.insertMutation again, Mutation.toRow_stored regular]

/-- The same for a new dead letter. -/
theorem insertDeadLetter_faithful (unguarded : db.Unguarded .deadLetters) {l : DeadLetter}
    (faithful : l.mutation.payload.Faithful) (bound : l.mutation.retries ≤ maxRetryCount)
    (queued : l.mutation.enqueuedAt.Regular) (failed : l.failedAt.Regular)
    (fresh : .text l.mutation.id ∉ keysOf (db.rowsOf .deadLetters)) :
    ∃ db', db.insertDeadLetter l = .ok db' ∧
      db'.deadLetter? l.mutation.id = .ok (some l.stored) ∧
      (∀ listed, db.allDeadLetters = .ok listed → ∃ front back, listed = front ++ back ∧
        db'.allDeadLetters = .ok (front ++ l.stored :: back)) ∧
      (∀ listed, db'.allDeadLetters = .ok listed → ∃ before, db.allDeadLetters = .ok before) ∧
      db'.deleteDeadLetter l.mutation.id = .ok (db, true) ∧
      db.insertDeadLetter l.stored = .ok db' := by
  have after := Unguarded.withRows db .deadLetters (added (db.rowsOf .deadLetters) l.toRow)
  have new := DeadLetter.ofRow_toRow_stored faithful bound queued failed
  have found : (added (db.rowsOf .deadLetters) l.toRow).find? (·.hasKey l.mutation.id) =
      some ⟨_, l.toRow⟩ := find?_added_of_absent fresh rfl
  -- A letter whose id is new is not merged into another one.
  have inserted : db.insertDeadLetter l =
      .ok (db.withRows .deadLetters (added (db.rowsOf .deadLetters) l.toRow)) := by
    rw [unguarded.insertDeadLetter, upserted_of_absent fresh]
  refine ⟨_, inserted, ?_, ?_, ?_, ?_, ?_⟩
  · rw [after.deadLetter?, rowsOf_withRows_self, found]
    exact congrArg (Except.map some) (new _)
  · intro listed before
    rw [unguarded.allDeadLetters] at before
    rw [after.allDeadLetters, rowsOf_withRows_self]
    exact listed_added (fun r x => DeadLetter.time_of_ofRow) new before
  · intro listed behind
    rw [after.allDeadLetters, rowsOf_withRows_self] at behind
    rw [unguarded.allDeadLetters]
    exact listed_of_added behind
  · have there : (added (db.rowsOf .deadLetters) l.toRow).any (·.hasKey l.mutation.id) = true :=
      List.any_eq_true.mpr ⟨_, List.mem_of_find?_eq_some found, List.find?_some found⟩
    rw [after.deleteDeadLetter, rowsOf_withRows_self, there, without_added_of_absent fresh rfl,
      withRows_withRows, unguarded.withRows_self]
  · have again : .text l.stored.mutation.id ∉ keysOf (db.rowsOf .deadLetters) := fresh
    rw [unguarded.insertDeadLetter, upserted_of_absent again, DeadLetter.toRow_stored]

/-- A mutation of the first second of the calendar, with the greatest count. -/
def sampleEarliest : Mutation where
  id := "\"é\u0000"
  operation := .update
  kind := .audits
  entityId := ""
  payload := .arr [.null, .str "\n"]
  enqueuedAt := ⟨Instant.firstSecond, 999999999⟩
  retries := maxRetryCount
  lastError := some ""
  state := .exhausted

/-- A database with no rows in the tables that mutations are in. -/
def sampleTables : Database := (empty.withRows .queue []).withRows .deadLetters []

end Database

end Outbox
