import Outbox.Proofs.Tables

/-!
# Rows in the order of their arrival

A table is ordered by a column of times, and rows of one time by their numbers. A time is cut off to
milliseconds, and the number of a deleted row is given again when it was the largest one. Still this
is the order in which the rows were added, as long as the clock does not go back: a new row takes a
number above all that are in use, and a time that is not before any of them. Rows that stand like
this are listed as they stand.
-/
namespace Outbox.Table

/-- Rows that were added one after the other until some time. -/
structure Standing (column : Nat) (clock : Int) (rows : List Row) : Prop where
  numbers : rows.Pairwise fun a b => a.number < b.number
  times : rows.Pairwise fun a b => rowLE [column] a b = true
  stamped : ∀ r ∈ rows, ∃ ms, r.cell column = .integer ms ∧ ms ≤ clock

theorem le_foldl_max (rows : List Row) (n : Nat) :
    n ≤ rows.foldl (fun n r => max n r.number) n ∧
      ∀ r ∈ rows, r.number ≤ rows.foldl (fun n r => max n r.number) n := by
  induction rows generalizing n with
  | nil => exact ⟨le_rfl, fun r none => by cases none⟩
  | cons s rows ih =>
    obtain ⟨start, all⟩ := ih (max n s.number)
    constructor
    · exact (Nat.le_max_left _ _).trans start
    · intro r member
      rcases List.mem_cons.mp member with rfl | later
      · exact (Nat.le_max_right _ _).trans start
      · exact all r later

/-- Numbers of rows are below the next one. -/
theorem number_lt_nextNumber {rows : List Row} {r : Row} (member : r ∈ rows) :
    r.number < (ofRows rows).nextNumber :=
  Nat.lt_succ_of_le ((le_foldl_max rows 0).2 r member)

/-- Rows that are in order already are listed as they stand. -/
theorem sortRows_of_pairwise {le : Row → Row → Bool} {rows : List Row}
    (ordered : rows.Pairwise fun a b => le a b = true) : sortRows le rows = rows := by
  induction rows with
  | nil => rfl
  | cons r rest ih =>
    obtain ⟨first, rest_ordered⟩ := List.pairwise_cons.mp ordered
    change insertRow le r (sortRows le rest) = _
    rw [ih rest_ordered]
    cases rest with
    | nil => rfl
    | cons s rest => exact if_pos (first s List.mem_cons_self)

namespace Standing

variable {column : Nat} {clock : Int} {rows : List Row}

theorem nil : Standing column clock [] := ⟨.nil, .nil, fun r none => by cases none⟩

/-- Rows go away without disturbing the order of the others. -/
theorem sublist (standing : Standing column clock rows) {left : List Row}
    (part : left.Sublist rows) : Standing column clock left :=
  ⟨standing.numbers.sublist part, standing.times.sublist part, fun r member =>
    standing.stamped r (part.subset member)⟩

theorem later (standing : Standing column clock rows) {now : Int} (le : clock ≤ now) :
    Standing column now rows := by
  refine ⟨standing.numbers, standing.times, fun r member => ?_⟩
  obtain ⟨ms, time, before⟩ := standing.stamped r member
  exact ⟨ms, time, before.trans le⟩

/-- A new row stands behind all others. -/
theorem added (standing : Standing column clock rows) {now : Int} (le : clock ≤ now)
    {cells : List Cell} (time : cells[column]? = some (.integer now)) :
    Standing column now (added rows cells) := by
  have stamp (number : Nat) : (Row.mk number cells).cell column = .integer now := by
    rw [Row.cell, time]
    rfl
  refine ⟨?_, ?_, ?_⟩
  · refine List.pairwise_append.mpr ⟨standing.numbers, List.pairwise_singleton _ _, ?_⟩
    intro a member b last
    rw [List.mem_singleton.mp last]
    exact number_lt_nextNumber member
  · refine List.pairwise_append.mpr ⟨standing.times, List.pairwise_singleton _ _, ?_⟩
    intro a member b last
    obtain ⟨ms, before, bound⟩ := standing.stamped a member
    rw [List.mem_singleton.mp last]
    exact (rowLE_iff_le before (stamp _)).mpr (bound.trans le)
  · exact forall_added (standing.later le).stamped fun number => ⟨now, stamp number, le_rfl⟩

/-- Cells of other columns may change. -/
theorem replaced (standing : Standing column clock rows) {positions : List Nat} {id : String}
    {new : List Cell} (kept : positions.contains column = false) (inside : column < new.length) :
    Standing column clock (replaced positions id new rows) := by
  have cell (r : Row) :
      (if r.hasKey id then r.overwrite positions new else r).cell column = r.cell column := by
    split
    · exact Row.cell_overwrite_of_kept kept inside
    · rfl
  have number (r : Row) :
      (if r.hasKey id then r.overwrite positions new else r).number = r.number := by
    split <;> rfl
  refine ⟨?_, ?_, fun r member => ?_⟩
  · refine List.pairwise_map.mpr (standing.numbers.imp fun {a b} less => ?_)
    rw [number, number]
    exact less
  · refine List.pairwise_map.mpr (standing.times.imp fun {a b} le => ?_)
    rw [rowLE, cell, cell]
    exact le
  · obtain ⟨before, present, rfl⟩ := List.mem_map.mp member
    rw [cell]
    exact standing.stamped before present

theorem sorted (standing : Standing column clock rows) : sortRows (rowLE [column]) rows = rows :=
  sortRows_of_pairwise standing.times

end Standing

end Outbox.Table
