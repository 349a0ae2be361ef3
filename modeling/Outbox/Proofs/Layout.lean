import Mathlib.Data.Set.List
import Mathlib.Logic.Function.Basic
import Outbox.Proofs.Tables

/-!
# Tables as maps

The data of a table have a key each, and a row is made of one of them. While every statement looks
for its row by the key, the rows are a map: each key has at most one row, a new value takes the
place of an old one wherever its row stands, and rows that go away take their values with them.
-/
namespace Outbox.Table

variable {α : Type}

/-- How data are laid out in rows: their cells, the key in the first one, and the cells that are
written over where a row of the key is there. -/
structure Layout (α : Type) where
  toRow : α → List Cell
  key : α → String
  rest : List Nat
  key_first : ∀ x, (toRow x)[0]? = some (.text (key x))
  /-- Nothing of the row that is written over is left. -/
  overwrite : ∀ {x y}, key x = key y → replaceAt rest (toRow x) (toRow y) = toRow y

namespace Layout

variable {L : Layout α} {x : α} {r : Row} {rows : List Row}

theorem cell_key (made : r.cells = L.toRow x) : r.cell 0 = .text (L.key x) := by
  rw [Row.cell, made, L.key_first]
  rfl

theorem hasKey_iff (made : r.cells = L.toRow x) {id : String} :
    r.hasKey id = true ↔ L.key x = id := by
  rw [Row.hasKey_iff, cell_key made, Cell.text.injEq]

theorem not_hasKey (made : r.cells = L.toRow x) (id : String) :
    (!r.hasKey id) = (L.key x != id) := by
  rw [Bool.eq_iff_iff, Bool.not_eq_true', ← Bool.not_eq_true, hasKey_iff made, bne_iff_ne]

theorem overwrite_cells {y : α} (made : r.cells = L.toRow x) (same : L.key x = L.key y) :
    (r.overwrite L.rest (L.toRow y)).cells = L.toRow y := by
  rw [Row.overwrite, made]
  exact L.overwrite same

end Layout

/-- The rows hold a map: those of its values, one for each of its keys. -/
structure Fills (L : Layout α) (rows : List Row) (values : String → Option α) : Prop where
  once : (keysOf rows).Nodup
  each : ∀ r ∈ rows, ∃ x, r.cells = L.toRow x ∧ values (L.key x) = some x
  all : ∀ k x, values k = some x → L.key x = k ∧ ∃ r ∈ rows, r.cells = L.toRow x

namespace Fills

variable {L : Layout α} {rows : List Row} {values : String → Option α}

theorem nil (L : Layout α) : Fills L [] fun _ => none where
  once := .nil
  each _ member := by cases member
  all _ _ value := by cases value

theorem mem_keysOf_iff (fills : Fills L rows values) {k : String} :
    .text k ∈ keysOf rows ↔ (values k).isSome = true := by
  rw [mem_keysOf, Option.isSome_iff_exists]
  constructor
  · rintro ⟨r, member, keyed⟩
    obtain ⟨x, made, value⟩ := fills.each r member
    have same : L.key x = k := Cell.text.inj ((Layout.cell_key made).symm.trans keyed)
    exact ⟨x, same ▸ value⟩
  · rintro ⟨x, value⟩
    obtain ⟨same, r, member, made⟩ := fills.all k x value
    exact ⟨r, member, by rw [Layout.cell_key made, same]⟩

/-- A row is found by a key exactly if the key has a value, and then it is made of the value. -/
theorem find?_cases (fills : Fills L rows values) (k : String) :
    (rows.find? (·.hasKey k) = none ∧ values k = none) ∨
      ∃ r x, rows.find? (·.hasKey k) = some r ∧ values k = some x ∧ r.cells = L.toRow x := by
  cases value : values k with
  | none =>
    have absent : .text k ∉ keysOf rows := by
      rw [fills.mem_keysOf_iff, value]
      simp
    exact .inl ⟨find?_hasKey_of_absent absent, rfl⟩
  | some x =>
    have present : .text k ∈ keysOf rows := by
      rw [fills.mem_keysOf_iff, value]
      rfl
    obtain ⟨r, member, found, keyed⟩ := find?_hasKey_of_present present
    obtain ⟨y, made, other⟩ := fills.each r member
    have same : L.key y = k := Cell.text.inj ((Layout.cell_key made).symm.trans keyed)
    rw [same, value] at other
    cases other
    exact .inr ⟨r, x, found, rfl, made⟩

theorem perm {sorted : List Row} (fills : Fills L rows values) (same : sorted.Perm rows) :
    Fills L sorted values where
  once := (same.map _).nodup_iff.mpr fills.once
  each r member := fills.each r (same.mem_iff.mp member)
  all k x value := by
    obtain ⟨keyed, r, member, made⟩ := fills.all k x value
    exact ⟨keyed, r, same.mem_iff.mpr member, made⟩

/-- The rows are made of the values, each of which is there once. -/
theorem content (fills : Fills L rows values) :
    ∃ xs : List α, rows.map (·.cells) = xs.map L.toRow ∧ (xs.map L.key).Nodup ∧
      ∀ x, x ∈ xs ↔ values (L.key x) = some x := by
  -- A row does not tell its value, so the values are chosen among those that are there.
  let made (x : { x : α // values (L.key x) = some x }) : List Cell := L.toRow x
  have chosen : rows.map (·.cells) ∈ Set.range (List.map made) := by
    rw [Set.range_list_map]
    intro cells member
    obtain ⟨r, present, rfl⟩ := List.mem_map.mp member
    obtain ⟨x, made, value⟩ := fills.each r present
    exact ⟨⟨x, value⟩, made.symm⟩
  obtain ⟨xs, same⟩ := chosen
  have cells : rows.map (·.cells) = (xs.map Subtype.val).map L.toRow := by
    rw [← same, List.map_map]
    rfl
  have keys : keysOf rows = ((xs.map Subtype.val).map L.key).map .text := by
    have firsts := congrArg (List.map fun cells => (cells[0]?).getD .null) cells
    simp only [List.map_map, Function.comp_def, L.key_first, Option.getD_some] at firsts
    simpa only [keysOf, Row.cell, List.map_map, Function.comp_def] using firsts
  refine ⟨xs.map Subtype.val, cells, (keys ▸ fills.once).of_map _, fun x => ⟨fun member => ?_,
    fun value => ?_⟩⟩
  · obtain ⟨y, -, rfl⟩ := List.mem_map.mp member
    exact y.2
  · obtain ⟨-, r, member, made⟩ := fills.all (L.key x) x value
    obtain ⟨y, there, row⟩ := List.mem_map.mp (cells ▸ List.mem_map_of_mem (f := Row.cells) member)
    obtain ⟨⟨y, value'⟩, -, rfl⟩ := List.mem_map.mp there
    -- Rows that are equal have one key, and a key has one value.
    have keyed : L.key y = L.key x := by
      have first := L.key_first y
      rw [row, made, L.key_first, Option.some_inj] at first
      exact (Cell.text.inj first).symm
    rw [keyed, value] at value'
    cases value'
    exact there

/-- Rows that are picked by what they are made of hold the values that are picked. -/
theorem filter (fills : Fills L rows values) {p : Row → Bool} {q : α → Bool}
    (same : ∀ r x, r.cells = L.toRow x → p r = q x) :
    Fills L (rows.filter p) fun k => (values k).filter q := by
  refine ⟨fills.once.sublist (List.filter_sublist.map _), fun r member => ?_, fun k x value => ?_⟩
  · obtain ⟨present, picked⟩ := List.mem_filter.mp member
    obtain ⟨x, made, value⟩ := fills.each r present
    refine ⟨x, made, ?_⟩
    rw [value, Option.filter_some, ← same r x made, if_pos picked]
  · obtain ⟨value, picked⟩ := Option.filter_eq_some_iff.mp value
    obtain ⟨keyed, r, member, made⟩ := fills.all k x value
    exact ⟨keyed, r, List.mem_filter.mpr ⟨member, (same r x made).trans picked⟩, made⟩

theorem without (fills : Fills L rows values) (id : String) :
    Fills L (without id rows) (Function.update values id none) := by
  have left : (Function.update values id none) =
      fun k => (values k).filter fun x => L.key x != id := by
    funext k
    by_cases same : k = id
    · subst same
      rw [Function.update_self, eq_comm, Option.filter_eq_none_iff]
      intro x value
      simp [(fills.all k x value).1]
    · rw [Function.update_of_ne same, eq_comm]
      cases value : values k with
      | none => rfl
      | some x => simp [(fills.all k x value).1, same]
  rw [left]
  exact fills.filter fun r x made => Layout.not_hasKey made id

/-- After a value was stored, a key has that value or is another one. -/
theorem of_update {x y : α} {k : String}
    (value : Function.update values (L.key x) (some x) k = some y) :
    (k = L.key x ∧ y = x) ∨ (k ≠ L.key x ∧ values k = some y) := by
  rw [Function.update_apply] at value
  split at value
  next same => exact .inl ⟨same, (Option.some.inj value).symm⟩
  next other => exact .inr ⟨other, value⟩

/-- Values of other keys are not touched where one is stored. -/
theorem update_of_ne {x y : α} (value : values (L.key y) = some y) (ne : L.key y ≠ L.key x) :
    Function.update values (L.key x) (some x) (L.key y) = some y := by
  rw [Function.update_of_ne ne, value]

/-- A value whose key is new gets a row of its own. -/
theorem added (fills : Fills L rows values) (x : α) (absent : .text (L.key x) ∉ keysOf rows) :
    Fills L (added rows (L.toRow x)) (Function.update values (L.key x) (some x)) := by
  refine ⟨?_, fun r member => ?_, fun k y value => ?_⟩
  · rw [keysOf_added, L.key_first, Option.getD_some, List.nodup_append]
    refine ⟨fills.once, List.nodup_singleton _, fun k present k' new same => ?_⟩
    rw [same, List.mem_singleton.mp new] at present
    exact absent present
  · rcases List.mem_append.mp member with old | last
    · obtain ⟨y, made, value⟩ := fills.each r old
      refine ⟨y, made, update_of_ne value fun same => absent ?_⟩
      exact mem_keysOf.mpr ⟨r, old, by rw [Layout.cell_key made, same]⟩
    · rw [List.mem_singleton.mp last]
      exact ⟨x, rfl, Function.update_self ..⟩
  · rcases of_update value with ⟨rfl, rfl⟩ | ⟨-, value⟩
    · exact ⟨rfl, _, List.mem_append_right _ List.mem_cons_self, rfl⟩
    · obtain ⟨keyed, r, member, made⟩ := fills.all k y value
      exact ⟨keyed, r, List.mem_append_left _ member, made⟩

/-- A row after the one of a key was written over: it is that one, made of the new value, or another
one as it was. -/
theorem cells_replaced (fills : Fills L rows values) (x : α) {r : Row} (member : r ∈ rows) :
    (r.hasKey (L.key x) = true ∧ (r.overwrite L.rest (L.toRow x)).cells = L.toRow x) ∨
      ∃ y, ¬ r.hasKey (L.key x) = true ∧ r.cells = L.toRow y ∧ L.key y ≠ L.key x ∧
        values (L.key y) = some y := by
  obtain ⟨y, made, value⟩ := fills.each r member
  by_cases same : L.key y = L.key x
  · exact .inl ⟨(Layout.hasKey_iff made).mpr same, Layout.overwrite_cells made same⟩
  · exact .inr ⟨y, mt (Layout.hasKey_iff made).mp same, made, same, value⟩

/-- A value whose key is taken gets the row of the old one. -/
theorem replaced (fills : Fills L rows values) (x : α) (taken : .text (L.key x) ∈ keysOf rows) :
    Fills L (replaced L.rest (L.key x) (L.toRow x) rows)
      (Function.update values (L.key x) (some x)) := by
  refine ⟨?_, fun r member => ?_, fun k y value => ?_⟩
  · -- Rows keep their places and their keys.
    have kept : keysOf (Table.replaced L.rest (L.key x) (L.toRow x) rows) = keysOf rows := by
      simp only [keysOf, Table.replaced, List.map_map]
      refine List.map_congr_left fun r member => ?_
      rw [Function.comp]
      rcases fills.cells_replaced x member with ⟨keyed, made⟩ | ⟨y, other, -⟩
      · rw [if_pos keyed, Layout.cell_key made, Row.hasKey_iff.mp keyed]
      · rw [if_neg other]
    rw [kept]
    exact fills.once
  · obtain ⟨before, present, rfl⟩ := List.mem_map.mp member
    rcases fills.cells_replaced x present with ⟨keyed, made⟩ | ⟨y, other, made, ne, value⟩
    · rw [if_pos keyed]
      exact ⟨x, made, Function.update_self ..⟩
    · rw [if_neg other]
      exact ⟨y, made, update_of_ne value ne⟩
  · rcases of_update value with ⟨rfl, rfl⟩ | ⟨ne, value⟩
    · -- The row of the key is there, and it was written over.
      obtain ⟨r, member, keyed⟩ := List.any_eq_true.mp (any_hasKey.mpr taken)
      refine ⟨rfl, _, List.mem_map.mpr ⟨r, member, rfl⟩, ?_⟩
      rcases fills.cells_replaced y member with ⟨_, made⟩ | ⟨_, other, -⟩
      · rw [if_pos keyed, made]
      · exact absurd keyed other
    · obtain ⟨keyed, r, member, made⟩ := fills.all k y value
      have other : ¬ r.hasKey (L.key x) = true := by
        rw [Layout.hasKey_iff made, keyed]
        exact ne
      exact ⟨keyed, _, List.mem_map.mpr ⟨r, member, rfl⟩, by rw [if_neg other, made]⟩

/-- The key of a value that is stored is taken by that value. -/
theorem upserted (fills : Fills L rows values) (x : α) :
    Fills L (upserted L.rest (L.key x) (L.toRow x) rows)
      (Function.update values (L.key x) (some x)) := by
  unfold Table.upserted
  split
  next taken => exact fills.replaced x (any_hasKey.mp taken)
  next free => exact fills.added x (mt any_hasKey.mpr free)

end Fills

end Outbox.Table
