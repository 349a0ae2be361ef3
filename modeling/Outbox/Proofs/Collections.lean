import Mathlib.Logic.Function.Basic
import Outbox.Proofs.Store
import Outbox.Store.Collections

/-!
# Collections as maps

Every look-up in a collection goes by id, so the rows of a collection are a map from ids to values:
a record that is stored sets the value of its id, wherever its row stands, and one that is deleted
takes it away. What holds is stated for one collection and every id, and the statements on the rows
are not looked at again.
-/
namespace Outbox

open Table Time

/-! ## Rows by key -/

namespace Table

theorem find?_without_self (id : String) (rows : List Row) :
    (without id rows).find? (·.hasKey id) = none := by
  apply find?_hasKey_of_absent
  intro taken
  exact (mem_keysOf_without.mp taken).2 rfl

/-- The row of another key is found as before. -/
theorem find?_without_of_ne {id other : String} (ne : other ≠ id) (rows : List Row) :
    (without id rows).find? (·.hasKey other) = rows.find? (·.hasKey other) := by
  have apart (r : Row) : (!r.hasKey id && r.hasKey other) = r.hasKey other := by
    by_cases keyed : r.hasKey other = true
    · have kept : r.hasKey id = false := by
        rw [← Bool.not_eq_true, Row.hasKey_iff, Row.hasKey_iff.mp keyed]
        exact fun same => ne (Cell.text.inj same)
      rw [keyed, kept]
      rfl
    · simp [keyed]
  rw [without, List.find?_filter]
  simp only [Bool.decide_and, Bool.decide_eq_true, apart]

section Upserted

variable {positions : List Nat} {id : String} {cells : List Cell}

/-- Rows are found by their first cell, which is not replaced. -/
theorem find?_replaced (kept : positions.contains 0 = false) (some_cell : cells ≠ [])
    (other : String) (rows : List Row) :
    (replaced positions id cells rows).find? (·.hasKey other) =
      (rows.find? (·.hasKey other)).map fun r =>
        if r.hasKey id then r.overwrite positions cells else r := by
  rw [replaced, List.find?_map]
  congr 2
  funext r
  have same : (if r.hasKey id then r.overwrite positions cells else r).cell 0 = r.cell 0 := by
    split
    · exact Row.cell_overwrite_of_kept kept (List.length_pos_iff.mpr some_cell)
    · rfl
  exact congrArg (Cell.sameValue · (.text other)) same

theorem find?_upserted_self (kept : positions.contains 0 = false)
    (key : cells[0]? = some (.text id)) (rows : List Row) :
    (upserted positions id cells rows).find? (·.hasKey id) =
      some (((rows.find? (·.hasKey id)).map (·.overwrite positions cells)).getD
        ⟨(ofRows rows).nextNumber, cells⟩) := by
  have some_cell : cells ≠ [] := by
    rintro rfl
    cases key
  unfold upserted
  split
  next taken =>
    obtain ⟨r, -, found, same⟩ := find?_hasKey_of_present (any_hasKey.mp taken)
    rw [find?_replaced kept some_cell, found, Option.map_some, if_pos (Row.hasKey_iff.mpr same)]
    rfl
  next free =>
    -- None has the key, so the search ends at the new row.
    have absent : rows.find? (·.hasKey id) = none :=
      find?_hasKey_of_absent (mt any_hasKey.mpr free)
    have new : (Row.mk (ofRows rows).nextNumber cells).hasKey id = true := by
      rw [Row.hasKey_iff, Row.cell, key]
      rfl
    rw [added, List.find?_append, absent, Option.none_or, List.find?_singleton, if_pos new]
    rfl

theorem find?_upserted_of_ne (kept : positions.contains 0 = false)
    (key : cells[0]? = some (.text id)) {other : String} (ne : other ≠ id) (rows : List Row) :
    (upserted positions id cells rows).find? (·.hasKey other) = rows.find? (·.hasKey other) := by
  have some_cell : cells ≠ [] := by
    rintro rfl
    cases key
  -- No row has both keys.
  have apart {r : Row} (keyed : r.hasKey other = true) : ¬ r.hasKey id = true := by
    rw [Row.hasKey_iff, Row.hasKey_iff.mp keyed]
    exact fun same => ne (Cell.text.inj same)
  unfold upserted
  split
  · rw [find?_replaced kept some_cell]
    cases found : rows.find? (·.hasKey other) with
    | none => rfl
    | some r => rw [Option.map_some, if_neg (apart (List.find?_some found))]
  · have new : (Row.mk (ofRows rows).nextNumber cells).hasKey other = false := by
      rw [← Bool.not_eq_true, Row.hasKey_iff, Row.cell, key]
      exact fun same => ne (Cell.text.inj same).symm
    rw [added, List.find?_append, List.find?_singleton, new]
    exact Option.or_none

end Upserted

end Table

/-! ## Records -/

namespace EntityRecord

/-- What a row of a collection is read as. -/
theorem ofRow_eq_ok_iff {r : Row} {record : EntityRecord} :
    EntityRecord.ofRow r = .ok record ↔
      r.cell 0 = .text record.id ∧
      (∃ s, r.cell 1 = .text s ∧ Json.parse s = .ok record.value) ∧
      ∃ ms, r.cell 2 = .integer ms ∧ record.updatedAt = .ofMillis ms := by
  constructor
  · intro h
    obtain ⟨id, hid, h⟩ := Except.bind_eq_ok h
    obtain ⟨s, hs, h⟩ := Except.bind_eq_ok h
    obtain ⟨ms, hms, h⟩ := Except.bind_eq_ok h
    obtain ⟨value, hvalue, h⟩ := Except.bind_eq_ok h
    cases h
    exact ⟨Place.text_eq_ok_iff.mp (Error.ofTable_eq_ok_iff.mp hid),
      ⟨s, Place.text_eq_ok_iff.mp (Error.ofTable_eq_ok_iff.mp hs),
        parsePayload_eq_ok_iff.mp hvalue⟩,
      ms, Place.integer_eq_ok_iff.mp (Error.ofTable_eq_ok_iff.mp hms), rfl⟩
  · rintro ⟨c0, ⟨s, c1, hvalue⟩, ms, c2, time⟩
    rcases record with ⟨id, value, updatedAt⟩
    simp only at time
    subst time
    simp only [ofRow, Place.text_eq_ok_iff.mpr c0, Place.text_eq_ok_iff.mpr c1,
      Place.integer_eq_ok_iff.mpr c2, Error.ofTable]
    exact congrArg (· >>= fun value => pure (EntityRecord.mk id value (.ofMillis ms)))
      (parsePayload_eq_ok_iff.mpr hvalue)

/-- A record that was written reads back, but for what its time has below a millisecond. -/
theorem ofRow_toRow {record : EntityRecord} (number : Nat) (faithful : record.value.Faithful) :
    EntityRecord.ofRow ⟨number, record.toRow⟩ =
      .ok { record with updatedAt := .ofMillis record.updatedAt.toMillis } :=
  ofRow_eq_ok_iff.mpr ⟨rfl, ⟨_, rfl, faithful⟩, _, rfl, rfl⟩

/-- A record that is written over another one of its id reads back in its place. -/
theorem ofRow_overwrite {r : Row} {old record : EntityRecord}
    (read : EntityRecord.ofRow r = .ok old) (same : old.id = record.id)
    (faithful : record.value.Faithful) :
    EntityRecord.ofRow (r.overwrite [1, 2] record.toRow) =
      .ok { record with updatedAt := .ofMillis record.updatedAt.toMillis } := by
  obtain ⟨c0, ⟨s, c1, -⟩, ms, c2, -⟩ := ofRow_eq_ok_iff.mp read
  -- The row is complete, so what is written over its cells is found there.
  have second : 1 < r.cells.length := Row.length_of_cell (by simp [c1])
  have third : 2 < r.cells.length := Row.length_of_cell (by simp [c2])
  refine ofRow_eq_ok_iff.mpr ⟨?_, ⟨_, ?_, faithful⟩, _, ?_, rfl⟩
  · rw [Row.cell_overwrite_of_kept rfl (Nat.zero_lt_succ _), c0, same]
  · exact Row.cell_overwrite_of_new rfl second
  · exact Row.cell_overwrite_of_new rfl third

end EntityRecord

/-! ## Copies -/

/-- The record of an id among the rows of a collection. -/
def copyOf (rows : List Row) (id : String) : Except Error (Option EntityRecord) :=
  match rows.find? (·.hasKey id) with
  | some r => (EntityRecord.ofRow r).map some
  | none => .ok none

theorem Database.Healthy.entity? {db : Database} (h : db.Healthy) (kind : EntityKind)
    (id : String) : db.entity? kind id = copyOf (db.rowsOf (.collection kind)) id := by
  rw [Database.entity?, h.row? rfl]
  rfl

/-- The rows of a collection hold a map: every look-up succeeds, and finds the value of the id. -/
def Holds (rows : List Row) (values : String → Option Json) : Prop :=
  ∀ id, ∃ record, copyOf rows id = .ok record ∧ record.map (·.value) = values id

namespace Holds

variable {rows : List Row} {values : String → Option Json}

theorem nil : Holds [] fun _ => none := fun _ => ⟨none, rfl, rfl⟩

/-- What is found at an id was read from a row. -/
theorem read (holds : Holds rows values) {id : String} {r : Row}
    (found : rows.find? (·.hasKey id) = some r) :
    ∃ record, EntityRecord.ofRow r = .ok record ∧ record.id = id := by
  obtain ⟨record, looked, -⟩ := holds id
  rw [copyOf, found] at looked
  cases done : EntityRecord.ofRow r with
  | error fault => simp [done, Except.map] at looked
  | ok record =>
    have key := Row.hasKey_iff.mp (List.find?_some found)
    exact ⟨record, rfl, Cell.text.inj ((EntityRecord.ofRow_eq_ok_iff.mp done).1.symm.trans key)⟩

/-- The record of one id changed, and the others are found as before. -/
theorem update (holds : Holds rows values) {id : String} {after : List Row} {value : Option Json}
    (others : ∀ other, other ≠ id →
      after.find? (·.hasKey other) = rows.find? (·.hasKey other))
    (here : ∃ record, copyOf after id = .ok record ∧ record.map (·.value) = value) :
    Holds after (Function.update values id value) := by
  intro other
  by_cases same : other = id
  · subst same
    rw [Function.update_self]
    exact here
  · rw [Function.update_of_ne same, copyOf, others other same]
    exact holds other

theorem upserted (holds : Holds rows values) (record : EntityRecord)
    (faithful : record.value.Faithful) :
    Holds (Table.upserted [1, 2] record.id record.toRow rows)
      (Function.update values record.id (some record.value)) := by
  refine holds.update (fun other ne => find?_upserted_of_ne rfl rfl ne rows)
    ⟨some { record with updatedAt := .ofMillis record.updatedAt.toMillis }, ?_, rfl⟩
  rw [copyOf, find?_upserted_self rfl rfl]
  -- A row that is written over was read before, so it is complete.
  cases found : rows.find? (·.hasKey record.id) with
  | none => exact congrArg (Except.map some) (EntityRecord.ofRow_toRow _ faithful)
  | some r =>
    obtain ⟨old, read, same⟩ := holds.read found
    exact congrArg (Except.map some) (EntityRecord.ofRow_overwrite read same faithful)

theorem without (holds : Holds rows values) (id : String) :
    Holds (Table.without id rows) (Function.update values id none) := by
  refine holds.update (fun other ne => find?_without_of_ne ne rows) ⟨none, ?_, rfl⟩
  rw [copyOf, find?_without_self]

end Holds

end Outbox
