import Mathlib.Data.List.Forall2
import Mathlib.Data.List.Sort
import Outbox.Store.Database

/-!
# Statements on unguarded tables

Where no guard stands in the way a statement is an operation on a list of rows: a new row is
appended, the row of a key is changed in place or taken out, a view is a stable sort. Everything
that is proved about the queue and the dead letters rests on these equations and not on the
statements themselves.
-/
namespace Outbox

open Table

theorem mapM_cons_eq_ok_iff {ε α β : Type} {f : α → Except ε β} {x : α} {xs : List α}
    {ys : List β} :
    (x :: xs).mapM f = .ok ys ↔ ∃ y l, f x = .ok y ∧ xs.mapM f = .ok l ∧ ys = y :: l := by
  rw [List.mapM_cons]
  rcases f x with fault | y
  · simp [bind, Except.bind]
  · rcases xs.mapM f with fault | l
    · simp [bind, Except.bind]
    · simp [bind, Except.bind, pure, Except.pure, eq_comm]

/-- Effects over a list succeed exactly when each of them does. -/
theorem mapM_eq_ok_iff {ε α β : Type} {f : α → Except ε β} {xs : List α} {ys : List β} :
    xs.mapM f = .ok ys ↔ List.Forall₂ (fun x y => f x = .ok y) xs ys := by
  induction xs generalizing ys with
  | nil =>
    rw [List.forall₂_nil_left_iff]
    simp [pure, Except.pure, eq_comm]
  | cons x xs ih => simp only [mapM_cons_eq_ok_iff, ih, List.forall₂_cons_left_iff]

/-- Effects over a list succeed when each of them does. -/
theorem exists_mapM_eq_ok {ε α β : Type} {f : α → Except ε β} {xs : List α}
    (each : ∀ x ∈ xs, ∃ y, f x = .ok y) : ∃ ys, xs.mapM f = .ok ys := by
  induction xs with
  | nil => exact ⟨[], rfl⟩
  | cons x xs ih =>
    obtain ⟨y, head⟩ := each x List.mem_cons_self
    obtain ⟨ys, tail⟩ := ih fun x' member => each x' (List.mem_cons_of_mem _ member)
    exact ⟨y :: ys, mapM_cons_eq_ok_iff.mpr ⟨y, ys, head, tail, rfl⟩⟩

/-- One fault is enough for the whole list, whatever succeeds before it. -/
theorem mapM_eq_error {ε α β : Type} {f : α → Except ε β} {xs : List α} {fault : ε}
    (each : ∀ x ∈ xs, (∃ y, f x = .ok y) ∨ f x = .error fault)
    (refused : ∃ x ∈ xs, f x = .error fault) : xs.mapM f = .error fault := by
  induction xs with
  | nil =>
    obtain ⟨x, member, -⟩ := refused
    cases member
  | cons x xs ih =>
    rw [List.mapM_cons]
    rcases each x List.mem_cons_self with ⟨y, head⟩ | head
    · have behind : ∃ x' ∈ xs, f x' = .error fault := by
        obtain ⟨x', member, same⟩ := refused
        rcases List.mem_cons.mp member with rfl | later
        · rw [head] at same
          cases same
        · exact ⟨x', later, same⟩
      rw [head, ih (fun x' member => each x' (List.mem_cons_of_mem _ member)) behind]
      rfl
    · rw [head]
      rfl

theorem exists_of_mem_mapM {ε α β : Type} {f : α → Except ε β} {xs : List α} {ys : List β}
    (done : xs.mapM f = .ok ys) {y : β} (member : y ∈ ys) : ∃ x ∈ xs, f x = .ok y := by
  have each := mapM_eq_ok_iff.mp done
  clear done
  induction each with
  | nil => cases member
  | cons first _ ih =>
    rcases List.mem_cons.mp member with rfl | later
    · exact ⟨_, List.mem_cons_self, first⟩
    · obtain ⟨x, present, same⟩ := ih later
      exact ⟨x, List.mem_cons_of_mem _ present, same⟩

theorem ok_of_mem_mapM {ε α β : Type} {f : α → Except ε β} {xs : List α} {ys : List β}
    (done : xs.mapM f = .ok ys) {x : α} (member : x ∈ xs) : ∃ y ∈ ys, f x = .ok y := by
  have each := mapM_eq_ok_iff.mp done
  clear done
  induction each with
  | nil => cases member
  | cons first _ ih =>
    rcases List.mem_cons.mp member with rfl | later
    · exact ⟨_, List.mem_cons_self, first⟩
    · obtain ⟨y, present, same⟩ := ih later
      exact ⟨y, List.mem_cons_of_mem _ present, same⟩

namespace Table

/-! ## Keys -/

theorem Cell.sameValue_text {c : Cell} {s : String} :
    c.sameValue (.text s) = true ↔ c = .text s := by
  cases c with
  | text t => simp [Cell.sameValue, Cell.compareTo]
  | _ => simp [Cell.sameValue, Cell.compareTo, Cell.rank]

namespace Row

/-- Whether a text is the key of a row. -/
def hasKey (id : String) (r : Row) : Bool := (r.cell 0).sameValue (.text id)

@[simp] theorem hasKey_iff {id : String} {r : Row} : r.hasKey id = true ↔ r.cell 0 = .text id :=
  Cell.sameValue_text

/-- The instant by which the queue is ordered, as milliseconds. -/
def time (r : Row) : Int :=
  match r.cell 5 with
  | .integer ms => ms
  | _ => 0

end Row

/-- The keys of some rows, in their order. -/
def keysOf (rows : List Row) : List Cell := rows.map (·.cell 0)

theorem mem_keysOf {rows : List Row} {c : Cell} : c ∈ keysOf rows ↔ ∃ r ∈ rows, r.cell 0 = c :=
  List.mem_map

theorem keysOf_append (rows more : List Row) : keysOf (rows ++ more) = keysOf rows ++ keysOf more :=
  List.map_append

theorem any_hasKey {rows : List Row} {id : String} :
    rows.any (·.hasKey id) = true ↔ .text id ∈ keysOf rows := by
  simp [List.any_eq_true, mem_keysOf]

theorem find?_hasKey_of_absent {rows : List Row} {id : String} (absent : .text id ∉ keysOf rows) :
    rows.find? (·.hasKey id) = none := by
  rw [List.find?_eq_none]
  intro r member taken
  exact absent (mem_keysOf.mpr ⟨r, member, Row.hasKey_iff.mp taken⟩)

theorem find?_hasKey_of_present {rows : List Row} {id : String} (present : .text id ∈ keysOf rows) :
    ∃ r ∈ rows, rows.find? (·.hasKey id) = some r ∧ r.cell 0 = .text id := by
  cases found : rows.find? (·.hasKey id) with
  | none =>
    obtain ⟨r, member, same⟩ := mem_keysOf.mp present
    exact absurd (Row.hasKey_iff.mpr same) (List.find?_eq_none.mp found r member)
  | some r =>
    exact ⟨r, List.mem_of_find?_eq_some found, rfl, Row.hasKey_iff.mp (List.find?_some found)⟩

/-! ## Statements -/

/-- A table that no guard restricts. -/
def ofRows (rows : List Row) : Table := ⟨rows, []⟩

/-- The rows after a new one. -/
def added (rows : List Row) (cells : List Cell) : List Row :=
  rows ++ [⟨(ofRows rows).nextNumber, cells⟩]

/-- A row after some of its cells were replaced. -/
def Row.overwrite (positions : List Nat) (new : List Cell) (r : Row) : Row :=
  { r with cells := replaceAt positions r.cells new }

/-- The rows after some cells in the row of a key were replaced. -/
def replaced (positions : List Nat) (id : String) (new : List Cell) (rows : List Row) : List Row :=
  rows.map fun r => if r.hasKey id then r.overwrite positions new else r

/-- The rows after a row was added or, where its key is taken, merged into the one that has it. -/
def upserted (positions : List Nat) (id : String) (cells : List Cell) (rows : List Row) :
    List Row :=
  if rows.any (·.hasKey id) then replaced positions id cells rows else added rows cells

/-- The rows after the row of a key went away. -/
def without (id : String) (rows : List Row) : List Row := rows.filter fun r => !r.hasKey id

@[simp] theorem ofRows_rows (rows : List Row) : (ofRows rows).rows = rows := rfl

theorem refuses_ofRows (rows : List Row) (action : Action) (cells : List Cell) :
    (ofRows rows).refuses action cells = false := rfl

theorem none_refused (rows : List Row) (p : Row → Bool) (action : Action) :
    ((ofRows rows).rows.any fun r => p r && (ofRows rows).refuses action r.cells) = false := by
  simp [refuses_ofRows]

theorem rowsWhere_ofRows (rows : List Row) (p : Row → Bool) :
    (ofRows rows).rowsWhere p = .ok (rows.filter p) := by
  rw [rowsWhere, none_refused]
  rfl

theorem delete_ofRows (rows : List Row) (p : Row → Bool) :
    (ofRows rows).delete p = .ok (ofRows (rows.filter fun r => !p r), rows.countP p) := by
  rw [delete, none_refused]
  rfl

theorem update_ofRows (rows : List Row) (p : Row → Bool) (f : List Cell → List Cell) :
    (ofRows rows).update p f =
      .ok (ofRows (rows.map fun r => if p r then { r with cells := f r.cells } else r)) := by
  rw [update, none_refused]
  rfl

theorem find?_ofRows (rows : List Row) (id : String) :
    (ofRows rows).find? (.text id) = rows.find? (·.hasKey id) := rfl

theorem checkNew_ofRows {name : TableName} {rows : List Row} {cells : List Cell}
    (complete : missingColumn? name.columns cells = none) :
    checkNew name (ofRows rows) cells = .ok () := by
  simp [checkNew, refuses_ofRows, complete]

theorem insert_ofRows {name : TableName} {rows : List Row} {id : String} {cells : List Cell}
    (complete : missingColumn? name.columns cells = none) (key : cells.headD .null = .text id)
    (fresh : .text id ∉ keysOf rows) :
    insert name (ofRows rows) cells = .ok (ofRows (added rows cells)) := by
  simp only [insert, checkNew_ofRows complete, key, find?_ofRows, find?_hasKey_of_absent fresh]
  rfl

theorem insert_ofRows_of_taken {name : TableName} {rows : List Row} {id : String}
    {cells : List Cell} (complete : missingColumn? name.columns cells = none)
    (key : cells.headD .null = .text id) (taken : .text id ∈ keysOf rows) :
    insert name (ofRows rows) cells =
      .error (.notUnique name.name ((name.columns.map (·.name)).headD "")) := by
  obtain ⟨r, -, found, -⟩ := find?_hasKey_of_present taken
  simp only [insert, checkNew_ofRows complete, key, find?_ofRows, found]
  rfl

theorem upsert_ofRows {name : TableName} {rows : List Row} {id : String} {cells : List Cell}
    {positions : List Nat} (complete : missingColumn? name.columns cells = none)
    (key : cells.headD .null = .text id) :
    upsert name (ofRows rows) cells (replaceAt positions) =
      .ok (ofRows (upserted positions id cells rows)) := by
  simp only [upsert, checkNew_ofRows complete, key, find?_ofRows, upserted]
  cases found : rows.find? (·.hasKey id) with
  | none =>
    -- The key is looked up in the table as it is looked for among the rows.
    have absent : rows.any (·.hasKey id) = false := by
      simpa using List.find?_eq_none.mp found
    rw [absent]
    rfl
  | some r =>
    have taken : rows.any (·.hasKey id) = true :=
      List.any_eq_true.mpr ⟨r, List.mem_of_find?_eq_some found, List.find?_some found⟩
    rw [taken]
    exact update_ofRows rows (·.hasKey id) fun old => replaceAt positions old cells

/-! ## Cells of changed rows -/

theorem replaceAt_get? (positions : List Nat) (old new : List Cell) (i : Nat) :
    (replaceAt positions old new)[i]? =
      (old.zip new)[i]?.map fun (o, n) => if positions.contains i then n else o := by
  simp only [replaceAt, List.getElem?_map, List.getElem?_zipIdx, Option.map_map, Nat.zero_add]
  rfl

/-- A cell that is not replaced stays. -/
theorem Row.cell_overwrite_of_kept {positions : List Nat} {new : List Cell} {r : Row} {i : Nat}
    (kept : positions.contains i = false) (inside : i < new.length) :
    (r.overwrite positions new).cell i = r.cell i := by
  simp only [Row.cell, Row.overwrite, replaceAt_get?, kept]
  by_cases short : i < r.cells.length
  · simp [short, inside]
  · simp [short]

/-- A cell that is replaced holds what was given. -/
theorem Row.cell_overwrite_of_new {positions : List Nat} {new : List Cell} {r : Row} {i : Nat}
    (given : positions.contains i = true) (inside : i < r.cells.length) :
    (r.overwrite positions new).cell i = (new[i]?).getD .null := by
  simp only [Row.cell, Row.overwrite, replaceAt_get?, given]
  by_cases short : i < new.length
  · simp [short, inside]
  · simp [short]

theorem Row.length_of_cell {r : Row} {i : Nat} (h : r.cell i ≠ .null) : i < r.cells.length := by
  by_contra short
  exact h (by simp [Row.cell, List.getElem?_eq_none (Nat.le_of_not_lt short)])

/-- The key is the first cell, so rows keep their keys while other cells are replaced. -/
theorem keysOf_replaced {positions : List Nat} {id : String} {new : List Cell}
    (kept : positions.contains 0 = false) (some_cell : new ≠ []) (rows : List Row) :
    keysOf (replaced positions id new rows) = keysOf rows := by
  simp only [keysOf, replaced, List.map_map]
  apply List.map_congr_left
  intro r _
  simp only [Function.comp]
  split
  · exact Row.cell_overwrite_of_kept kept (List.length_pos_iff.mpr some_cell)
  · rfl

theorem keysOf_added (rows : List Row) (cells : List Cell) :
    keysOf (added rows cells) = keysOf rows ++ [(cells[0]?).getD .null] := by
  simp [keysOf, added, Row.cell]

theorem mem_keysOf_added {rows : List Row} {cells : List Cell} {c k : Cell}
    (key : cells[0]? = some k) : c ∈ keysOf (added rows cells) ↔ c ∈ keysOf rows ∨ c = k := by
  rw [keysOf_added, key, Option.getD_some, List.mem_append, List.mem_singleton]

theorem mem_keysOf_without {rows : List Row} {id : String} {c : Cell} :
    c ∈ keysOf (without id rows) ↔ c ∈ keysOf rows ∧ c ≠ .text id := by
  simp only [mem_keysOf, without, List.mem_filter]
  constructor
  · rintro ⟨r, ⟨member, other⟩, rfl⟩
    refine ⟨⟨r, member, rfl⟩, fun same => ?_⟩
    simp [Row.hasKey_iff.mpr same] at other
  · rintro ⟨⟨r, member, rfl⟩, other⟩
    refine ⟨r, ⟨member, ?_⟩, rfl⟩
    simpa [← Row.hasKey_iff] using other

theorem mem_keysOf_upserted {positions : List Nat} {id : String} {cells : List Cell}
    {rows : List Row} {c : Cell} (kept : positions.contains 0 = false)
    (key : cells[0]? = some (.text id)) :
    c ∈ keysOf (upserted positions id cells rows) ↔ c ∈ keysOf rows ∨ c = .text id := by
  have some_cell : cells ≠ [] := by
    rintro rfl
    cases key
  unfold upserted
  split
  next taken =>
    rw [keysOf_replaced kept some_cell]
    refine ⟨.inl, fun h => h.elim (fun member => member) ?_⟩
    rintro rfl
    exact any_hasKey.mp taken
  · exact mem_keysOf_added key

/-- What holds of every row and of a new one holds of all after the new one was added. -/
theorem forall_added {rows : List Row} {cells : List Cell} {P : Row → Prop}
    (old : ∀ r ∈ rows, P r) (new : ∀ number, P ⟨number, cells⟩) : ∀ r ∈ added rows cells, P r := by
  intro r member
  rcases List.mem_append.mp member with before | last
  · exact old r before
  · rw [List.mem_singleton.mp last]
    exact new _

theorem forall_replaced {positions : List Nat} {id : String} {cells : List Cell}
    {rows : List Row} {P : Row → Prop} (old : ∀ r ∈ rows, P r)
    (changed : ∀ r ∈ rows, r.hasKey id = true → P (r.overwrite positions cells)) :
    ∀ r ∈ replaced positions id cells rows, P r := by
  intro r member
  obtain ⟨before, present, rfl⟩ := List.mem_map.mp member
  split
  next keyed => exact changed before present keyed
  · exact old before present

theorem forall_upserted {positions : List Nat} {id : String} {cells : List Cell}
    {rows : List Row} {P : Row → Prop} (old : ∀ r ∈ rows, P r)
    (changed : ∀ r ∈ rows, r.hasKey id = true → P (r.overwrite positions cells))
    (new : ∀ number, P ⟨number, cells⟩) : ∀ r ∈ upserted positions id cells rows, P r := by
  unfold upserted
  split
  · exact forall_replaced old changed
  · exact forall_added old new

/-! ## The order of the queue -/

theorem insertRow_perm (le : Row → Row → Bool) (r : Row) (rows : List Row) :
    (insertRow le r rows).Perm (r :: rows) := by
  induction rows with
  | nil => exact .refl _
  | cons s rest ih =>
    rw [insertRow]
    split
    · exact .refl _
    · exact (ih.cons s).trans (.swap r s rest)

theorem sortRows_perm (le : Row → Row → Bool) (rows : List Row) :
    (sortRows le rows).Perm rows := by
  induction rows with
  | nil => exact .refl _
  | cons r rest ih => exact (insertRow_perm le r _).trans (ih.cons r)

theorem insertRow_eq_orderedInsert {β : Type} [LinearOrder β] {le : Row → Row → Bool} {f : Row → β}
    {r : Row} {rows : List Row} (same : ∀ s ∈ rows, le r s = true ↔ f r ≤ f s) :
    insertRow le r rows = rows.orderedInsert (fun a b => f a ≤ f b) r := by
  induction rows with
  | nil => rfl
  | cons s rest ih =>
    have le_iff := same s List.mem_cons_self
    rw [insertRow, List.orderedInsert_cons,
      ih fun other member => same other (List.mem_cons_of_mem s member)]
    by_cases before : f r ≤ f s
    · rw [if_pos (le_iff.mpr before), if_pos before]
    · rw [if_neg (mt le_iff.mp before), if_neg before]

/-- Rows that are compared as their images are sorted as these are. -/
theorem sortRows_eq_insertionSort {β : Type} [LinearOrder β] {le : Row → Row → Bool} {f : Row → β}
    {rows : List Row} (same : ∀ a ∈ rows, ∀ b ∈ rows, le a b = true ↔ f a ≤ f b) :
    sortRows le rows = rows.insertionSort fun a b => f a ≤ f b := by
  induction rows with
  | nil => rfl
  | cons r rest ih =>
    have sorted := ih fun a ha b hb =>
      same a (List.mem_cons_of_mem r ha) b (List.mem_cons_of_mem r hb)
    calc sortRows le (r :: rest)
        = insertRow le r (sortRows le rest) := rfl
      _ = insertRow le r (rest.insertionSort fun a b => f a ≤ f b) := by rw [sorted]
      _ = (r :: rest).insertionSort fun a b => f a ≤ f b :=
        insertRow_eq_orderedInsert fun s member => same r List.mem_cons_self s
          (List.mem_cons_of_mem r ((List.mem_insertionSort _).mp member))

/-- Rows that hold a time, as every row that can be read does. -/
def Timed (rows : List Row) : Prop := ∀ r ∈ rows, ∃ ms, r.cell 5 = .integer ms

/-- Rows by time; rows of one time keep their order. -/
def byTime (rows : List Row) : List Row := rows.insertionSort fun a b => a.time ≤ b.time

/-- Rows that hold integers in a column are compared by these. -/
theorem rowLE_iff_le {column : Nat} {a b : Row} {m n : Int} (ha : a.cell column = .integer m)
    (hb : b.cell column = .integer n) : rowLE [column] a b = true ↔ m ≤ n := by
  simp only [rowLE, ha, hb, Cell.compareTo]
  rcases Int.lt_trichotomy m n with less | equal | more
  · simp [Int.compare_eq_lt.mpr less, Int.le_of_lt less]
  · simp [equal]
  · simp [Int.compare_eq_gt.mpr more, more]

/-- The integer in a column. -/
def Row.integerAt (column : Nat) (r : Row) : Int :=
  match r.cell column with
  | .integer n => n
  | _ => 0

theorem Row.integerAt_eq {column : Nat} {r : Row} {n : Int} (cell : r.cell column = .integer n) :
    r.integerAt column = n := by
  rw [integerAt, cell]

/-- Rows that all hold an integer in a column are sorted by these. -/
theorem sortRows_eq_byInteger {column : Nat} {rows : List Row}
    (each : ∀ r ∈ rows, ∃ n, r.cell column = .integer n) :
    sortRows (rowLE [column]) rows =
      rows.insertionSort fun a b => a.integerAt column ≤ b.integerAt column := by
  apply sortRows_eq_insertionSort
  intro a ha b hb
  obtain ⟨m, hm⟩ := each a ha
  obtain ⟨n, hn⟩ := each b hb
  rw [rowLE_iff_le hm hn, Row.integerAt_eq hm, Row.integerAt_eq hn]

theorem rowLE_iff_time {a b : Row} (ha : ∃ ms, a.cell 5 = .integer ms)
    (hb : ∃ ms, b.cell 5 = .integer ms) : rowLE [5] a b = true ↔ a.time ≤ b.time := by
  obtain ⟨m, hm⟩ := ha
  obtain ⟨n, hn⟩ := hb
  rw [rowLE_iff_le hm hn, Row.time, Row.time, hm, hn]

theorem byTime_perm (rows : List Row) : (byTime rows).Perm rows := List.perm_insertionSort _ _

theorem byTime_sorted (rows : List Row) : (byTime rows).Pairwise fun a b => a.time ≤ b.time :=
  List.pairwise_insertionSort _ _

theorem sortRows_eq_byTime {rows : List Row} (timed : Timed rows) :
    sortRows (rowLE [5]) rows = byTime rows :=
  sortRows_eq_insertionSort fun a ha b hb => rowLE_iff_time (timed a ha) (timed b hb)

/-- Two rows that are in order already stay in their order. -/
theorem pair_sublist_byTime {a b : Row} {rows : List Row} (le : a.time ≤ b.time)
    (h : [a, b].Sublist rows) : [a, b].Sublist (byTime rows) :=
  List.pair_sublist_insertionSort le h

theorem orderedInsert_of_forall_le {r : Row} {rows : List Row}
    (first : ∀ s ∈ rows, r.time ≤ s.time) :
    rows.orderedInsert (fun a b => a.time ≤ b.time) r = r :: rows := by
  cases rows with
  | nil => rfl
  | cons s rest => exact List.orderedInsert_cons_of_le _ rest (first s List.mem_cons_self)

theorem filterMap_orderedInsert {g : Row → Option Row} {r : Row} {rows : List Row}
    (keeps : ∀ a b, g a = some b → b.time = a.time)
    (sorted : rows.Pairwise fun a b => a.time ≤ b.time) :
    (rows.orderedInsert (fun a b => a.time ≤ b.time) r).filterMap g =
      (g r).elim (rows.filterMap g)
        ((rows.filterMap g).orderedInsert fun a b => a.time ≤ b.time) := by
  induction rows with
  | nil => cases h : g r <;> simp [h]
  | cons s rest ih =>
    obtain ⟨first, rest_sorted⟩ := List.pairwise_cons.mp sorted
    -- Either the new row comes first, and its image before all images, or it goes into the rest.
    by_cases before : r.time ≤ s.time
    · rw [List.orderedInsert_cons_of_le _ rest before]
      cases h : g r with
      | none => simp [h]
      | some r' =>
        -- Images keep their times, so no other image is older than the first one.
        have after : ∀ x ∈ (s :: rest).filterMap g, r'.time ≤ x.time := by
          intro x member
          obtain ⟨y, hy, hx⟩ := List.mem_filterMap.mp member
          have ry : r.time ≤ y.time := by
            rcases List.mem_cons.mp hy with rfl | later
            · exact before
            · exact Int.le_trans before (first y later)
          rw [keeps r r' h, keeps y x hx]
          exact ry
        rw [Option.elim, orderedInsert_of_forall_le after, List.filterMap_cons_some h]
    · rw [List.orderedInsert_of_not_le _ rest before]
      cases hs : g s with
      | none => rw [List.filterMap_cons_none hs, List.filterMap_cons_none hs, ih rest_sorted]
      | some s' =>
        rw [List.filterMap_cons_some hs, List.filterMap_cons_some hs, ih rest_sorted]
        cases h : g r with
        | none => rfl
        | some r' =>
          -- Two images compare as the two rows do.
          have late : ¬ r'.time ≤ s'.time := by rwa [keeps r r' h, keeps s s' hs]
          exact (List.orderedInsert_of_not_le (r := fun a b : Row => a.time ≤ b.time) _ late).symm

/-- What happens to single rows without touching their time does not disturb the order. -/
theorem byTime_filterMap {g : Row → Option Row} {rows : List Row}
    (keeps : ∀ a b, g a = some b → b.time = a.time) :
    byTime (rows.filterMap g) = (byTime rows).filterMap g := by
  induction rows with
  | nil => rfl
  | cons r rest ih =>
    have step := filterMap_orderedInsert (r := r) keeps (byTime_sorted rest)
    rw [← ih] at step
    cases h : g r with
    | none =>
      rw [List.filterMap_cons_none h]
      rw [h] at step
      exact step.symm
    | some r' =>
      rw [List.filterMap_cons_some h]
      rw [h] at step
      exact step.symm

end Table

end Outbox
