import Mathlib.Data.List.Induction
import Mathlib.Data.Prod.Lex
import Outbox.Engine.Records
import Outbox.Proofs.ByteOrder
import Outbox.Proofs.Instants
import Outbox.Proofs.Launch
import Outbox.Proofs.Layout
import Outbox.Proofs.Replica

/-!
# Local copies as what was written last

Copies are written one by one, in batches, and together with mutations, and they are removed one by
one, with mutations, or all of a kind. Whatever the way, the copy of an entity is the latest verdict
on the entity. The rows of a collection hold exactly these records, one for each id, wherever they
stand; a list of them is sorted anew each time, by the times of the latest writes and then by ids.
-/
namespace Outbox

open Table Time

/-! ## Steps -/

/-- What is done with local copies. -/
inductive CopyStep where
  | save (kind : EntityKind) (id : String) (value : Json)
  | saveAll (kind : EntityKind) (items : List (String × Json))
  | delete (kind : EntityKind) (id : String)
  | clear (kind : EntityKind)
  | mutate (c : Change)

namespace CopyStep

/-- Values that can be read back. -/
def IsPlain : CopyStep → Prop
  | save _ _ value => value.Faithful
  | saveAll _ items => ∀ item ∈ items, item.2.Faithful
  | delete .. | clear _ => True
  | mutate c => c.payload.Faithful

instance : (step : CopyStep) → Decidable step.IsPlain
  | save _ _ value => inferInstanceAs (Decidable value.Faithful)
  | saveAll _ items => inferInstanceAs (Decidable (∀ item ∈ items, item.2.Faithful))
  | delete .. | clear _ => .isTrue trivial
  | mutate c => inferInstanceAs (Decidable c.payload.Faithful)

/-- The collection in which a step writes. -/
def kind : CopyStep → EntityKind
  | save k .. | saveAll k _ | delete k _ | clear k => k
  | mutate c => c.kind

/-- The records of a batch. -/
def batch (now : Instant) (items : List (String × Json)) : List EntityRecord :=
  items.map fun (id, value) => ⟨id, value, now⟩

/-- The verdict of a step on an entity: there is none, or there is no copy any more, or it is this
one. Of the items of a batch that have the id the last one counts. -/
def verdict (now : Instant) (kind : EntityKind) (id : String) :
    CopyStep → Option (Option EntityRecord)
  | save k i value => if k = kind ∧ i = id then some (some ⟨id, value, now⟩) else none
  | saveAll k items =>
    if k = kind then ((batch now items).reverse.find? (·.id == id)).map some else none
  | delete k i => if k = kind ∧ i = id then some none else none
  | clear k => if k = kind then some none else none
  | mutate c =>
    if c.kind = kind ∧ c.entityId = id then some (c.value?.map fun value => ⟨id, value, now⟩)
    else none

/-- A mutation is refused if one of its id is queued. -/
def isRefused (taken : List Cell) : CopyStep → Bool
  | mutate c => taken.contains (.text c.id)
  | _ => false

/-- The ids in the queue after a step. -/
def taking (taken : List Cell) : CopyStep → List Cell
  | mutate c => taken ++ [.text c.id]
  | _ => taken

variable {now : Instant} {k : EntityKind} {id : String} {step : CopyStep}

theorem verdict_of_other_kind (other : step.kind ≠ k) : step.verdict now k id = none := by
  cases step with
  | save | delete | mutate => exact if_neg fun same => other same.1
  | saveAll | clear => exact if_neg other

/-- A copy that is written has the id and the time of the step, and one of its values. -/
theorem of_verdict {r : EntityRecord} (written : step.verdict now k id = some (some r)) :
    r.id = id ∧ r.updatedAt = now ∧ (step.IsPlain → r.value.Faithful) := by
  cases step with
  | save k' i value =>
    obtain ⟨-, same⟩ := Option.ite_none_right_eq_some.mp written
    cases same
    exact ⟨rfl, rfl, fun plain => plain⟩
  | saveAll k' items =>
    obtain ⟨-, there⟩ := Option.ite_none_right_eq_some.mp written
    obtain ⟨r', found, same⟩ := Option.map_eq_some_iff.mp there
    cases same
    have keyed := List.find?_some found
    have member := List.mem_reverse.mp (List.mem_of_find?_eq_some found)
    obtain ⟨item, present, rfl⟩ := List.mem_map.mp member
    exact ⟨beq_iff_eq.mp keyed, rfl, fun plain => plain item present⟩
  | delete | clear => simp [verdict] at written
  | mutate c =>
    obtain ⟨-, there⟩ := Option.ite_none_right_eq_some.mp written
    obtain ⟨value, left, rfl⟩ := Option.map_eq_some_iff.mp (Option.some.inj there)
    refine ⟨rfl, rfl, fun plain => ?_⟩
    cases op : c.operation with
    | delete => simp [Change.value?, op] at left
    | _ =>
      simp only [Change.value?, op, Option.some_inj] at left
      exact left ▸ plain

end CopyStep

/-- The steps that are not refused, while some ids are in the queue. -/
def heeded (taken : List Cell) : List (Instant × CopyStep) → List (Instant × CopyStep)
  | [] => []
  | step :: steps =>
    if step.2.isRefused taken then heeded taken steps
    else step :: heeded (step.2.taking taken) steps

theorem heeded_sublist (taken : List Cell) (steps : List (Instant × CopyStep)) :
    (heeded taken steps).Sublist steps := by
  induction steps generalizing taken with
  | nil => exact .slnil
  | cons step steps ih =>
    rw [heeded]
    split
    · exact (ih taken).cons step
    · exact (ih _).cons_cons step

/-- What the latest verdict on an entity is. -/
def latestCopy (steps : List (Instant × CopyStep)) (kind : EntityKind) (id : String) :
    Option EntityRecord :=
  (steps.reverse.findSome? fun step => step.2.verdict step.1 kind id).join

theorem latestCopy_concat (steps : List (Instant × CopyStep)) (now : Instant) (step : CopyStep)
    (kind : EntityKind) (id : String) :
    latestCopy (steps ++ [(now, step)]) kind id =
      (step.verdict now kind id).getD (latestCopy steps kind id) := by
  rw [latestCopy, List.reverse_concat, List.findSome?_cons]
  cases step.verdict now kind id <;> rfl

theorem of_latestCopy {steps : List (Instant × CopyStep)} {kind : EntityKind} {id : String}
    {r : EntityRecord} (latest : latestCopy steps kind id = some r)
    (plain : ∀ step ∈ steps, step.1.Regular ∧ step.2.IsPlain) :
    r.id = id ∧ r.updatedAt.Regular ∧ r.value.Faithful := by
  -- Some step has written it.
  obtain ⟨step, member, written⟩ :=
    List.exists_of_findSome?_eq_some (Option.join_eq_some_iff.mp latest)
  obtain ⟨regular, plain⟩ := plain step (List.mem_reverse.mp member)
  obtain ⟨keyed, time, faithful⟩ := CopyStep.of_verdict written
  exact ⟨keyed, time ▸ regular, faithful plain⟩

/-! ## Records -/

namespace EntityRecord

/-- The cells of a collection are laid out by the id. -/
def layout : Layout EntityRecord where
  toRow := toRow
  key := id
  rest := [1, 2]
  key_first _ := rfl
  overwrite {x y} same := by
    simp only [replaceAt, toRow, List.zip_cons_cons, List.zip_nil_right]
    simp [same]

/-- What a record is read back as. -/
def stored (x : EntityRecord) : EntityRecord :=
  { x with updatedAt := .ofMillis x.updatedAt.toMillis }

theorem ofRow_of_cells {r : Row} {x : EntityRecord} (made : r.cells = x.toRow)
    (faithful : x.value.Faithful) : EntityRecord.ofRow r = .ok x.stored := by
  obtain ⟨number, _⟩ := r
  obtain rfl := made
  exact ofRow_toRow number faithful

/-- A record comes before another one: its time is earlier in milliseconds, or it is the same and
its id has the lesser bytes. -/
def Precedes (x y : EntityRecord) : Prop :=
  x.updatedAt.toMillis < y.updatedAt.toMillis ∨
    x.updatedAt.toMillis = y.updatedAt.toMillis ∧ Text.bytes x.id < Text.bytes y.id

/-- Where a record is listed. -/
def place (x : EntityRecord) : Int ×ₗ String := toLex (x.updatedAt.toMillis, x.id)

theorem precedes_iff {x y : EntityRecord} : x.Precedes y ↔ x.place < y.place := by
  rw [Precedes, Text.bytes_lt_iff, place, place, Prod.Lex.toLex_lt_toLex]

theorem place_stored {x : EntityRecord} (regular : x.updatedAt.Regular) :
    x.stored.place = x.place := by
  rw [place, stored, regular.toMillis_stored, place]

/-- Rows are compared as the records that are stored in them. -/
theorem rowLE_iff {a b : Row} {x y : EntityRecord} (ha : a.cells = x.toRow)
    (hb : b.cells = y.toRow) : rowLE [2, 0] a b = true ↔ x.place ≤ y.place := by
  have time {r : Row} {x : EntityRecord} (made : r.cells = x.toRow) :
      r.cell 2 = .integer x.updatedAt.toMillis := by
    rw [Row.cell, made]
    rfl
  have key {r : Row} {x : EntityRecord} (made : r.cells = x.toRow) : r.cell 0 = .text x.id := by
    rw [Row.cell, made]
    rfl
  simp only [rowLE, time ha, time hb, key ha, key hb, Cell.compareTo]
  rw [place, place, Prod.Lex.toLex_le_toLex]
  -- Times decide, and where they are equal the ids do.
  rcases lt_trichotomy x.updatedAt.toMillis y.updatedAt.toMillis with less | equal | more
  · simp [Int.compare_eq_lt.mpr less, less]
  · rcases lt_trichotomy x.id y.id with before | same | after
    · have earlier : compare x.id y.id = .lt := compareOfLessAndEq_eq_lt.mpr before
      simp [equal, earlier, before.le]
    · simp [equal, same]
    · have later : compare x.id y.id = .gt :=
        Std.OrientedCmp.gt_iff_lt.mpr (compareOfLessAndEq_eq_lt.mpr after)
      simp [equal, later, not_le.mpr after]
  · simp [Int.compare_eq_gt.mpr more, more.not_gt, more.ne']

/-- Where the record that is read from some cells is listed. -/
def placeOf (cells : List Cell) : Int ×ₗ String :=
  match EntityRecord.ofRow ⟨0, cells⟩ with
  | .ok x => x.place
  | .error _ => toLex (0, "")

theorem placeOf_eq {cells : List Cell} {x : EntityRecord} (made : cells = x.toRow)
    (regular : x.updatedAt.Regular) (faithful : x.value.Faithful) : placeOf cells = x.place := by
  rw [placeOf, made, ofRow_toRow 0 faithful]
  exact place_stored regular

theorem mapM_ofRow {rows : List Row} {xs : List EntityRecord}
    (cells : rows.map (·.cells) = xs.map toRow) (faithful : ∀ x ∈ xs, x.value.Faithful) :
    rows.mapM EntityRecord.ofRow = .ok (xs.map stored) := by
  induction rows generalizing xs with
  | nil =>
    cases xs with
    | nil => rfl
    | cons => cases cells
  | cons r rows ih =>
    cases xs with
    | nil => cases cells
    | cons x xs =>
      obtain ⟨first, rest⟩ := List.cons.inj cells
      refine mapM_cons_eq_ok_iff.mpr ⟨x.stored, xs.map stored, ?_, ?_, rfl⟩
      · exact ofRow_of_cells first (faithful x List.mem_cons_self)
      · exact ih rest fun y member => faithful y (List.mem_cons_of_mem x member)

section Listed

variable {rows : List Row} {values : String → Option EntityRecord}

/-- A list of rows shows the places of their records in order. -/
theorem places_sorted (fills : Fills layout rows values)
    (plain : ∀ id x, values id = some x → x.updatedAt.Regular ∧ x.value.Faithful) :
    ((sortRows (rowLE [2, 0]) rows).map fun r => placeOf r.cells).Pairwise (· ≤ ·) := by
  have same : ∀ a ∈ rows, ∀ b ∈ rows,
      rowLE [2, 0] a b = true ↔ placeOf a.cells ≤ placeOf b.cells := by
    intro a ha b hb
    obtain ⟨x, made, value⟩ := fills.each a ha
    obtain ⟨y, made', value'⟩ := fills.each b hb
    obtain ⟨regular, faithful⟩ := plain _ x value
    obtain ⟨regular', faithful'⟩ := plain _ y value'
    rw [placeOf_eq made regular faithful, placeOf_eq made' regular' faithful']
    exact rowLE_iff made made'
  rw [sortRows_eq_insertionSort (f := fun r => placeOf r.cells) same, List.pairwise_map]
  exact List.pairwise_insertionSort _ _

/-- The rows of a collection are listed as the records of the map that they hold, each of them once,
in order. -/
theorem listed (fills : Fills layout rows values)
    (plain : ∀ id x, values id = some x → x.updatedAt.Regular ∧ x.value.Faithful) :
    ∃ records, (sortRows (rowLE [2, 0]) rows).mapM EntityRecord.ofRow = .ok records ∧
      (∀ record, record ∈ records ↔ (values record.id).map stored = some record) ∧
      (records.map (·.id)).Nodup ∧ records.Pairwise Precedes ∧ records.length = rows.length := by
  have perm := sortRows_perm (rowLE [2, 0]) rows
  -- Sorted rows hold the same map, so only their order is left to be looked at.
  obtain ⟨xs, cells, once, content⟩ := (fills.perm perm).content
  have plain_of {x : EntityRecord} (member : x ∈ xs) := plain _ x ((content x).mp member)
  refine ⟨xs.map stored, mapM_ofRow cells fun x member => (plain_of member).2,
    fun record => ?_, ?_, ?_, ?_⟩
  · rw [List.mem_map, Option.map_eq_some_iff]
    constructor
    · rintro ⟨x, member, rfl⟩
      exact ⟨x, (content x).mp member, rfl⟩
    · rintro ⟨x, value, rfl⟩
      exact ⟨x, (content x).mpr value, rfl⟩
  · rw [List.map_map]
    exact once
  · have places : (sortRows (rowLE [2, 0]) rows).map (fun r => placeOf r.cells) =
        xs.map place := by
      have read := congrArg (List.map placeOf) cells
      rw [List.map_map, List.map_map] at read
      refine read.trans (List.map_congr_left fun x member => ?_)
      exact placeOf_eq rfl (plain_of member).1 (plain_of member).2
    have sorted := places_sorted fills plain
    rw [places, List.pairwise_map] at sorted
    -- No two records are in one place, as no two have one id.
    rw [List.pairwise_map]
    refine (sorted.and (List.pairwise_map.mp once)).imp_of_mem fun hx hy both => ?_
    obtain ⟨le, ne⟩ := both
    rw [precedes_iff, place_stored (plain_of hx).1, place_stored (plain_of hy).1]
    exact lt_of_le_of_ne le fun same => ne (congrArg (fun p => (ofLex p).2) same)
  · have lengths := congrArg List.length cells
    rw [List.length_map, List.length_map] at lengths
    rw [List.length_map, ← lengths, perm.length_eq]

end Listed

end EntityRecord

/-! ## Rows -/

section Rows

variable {rows : List Row} {values : String → Option EntityRecord} {now : Instant}
  {k : EntityKind}

theorem verdicts_at (i : String) (x : String → Option EntityRecord)
    (values : String → Option EntityRecord) :
    (fun id => ((if k = k ∧ i = id then some (x id) else none).getD (values id))) =
      Function.update values i (x i) := by
  funext id
  by_cases same : i = id
  · subst same
    simp
  · rw [if_neg fun both => same both.2, Function.update_of_ne (Ne.symm same)]
    rfl

/-- Of records that are stored one after the other the last one of an id stays. -/
theorem Table.Fills.rowsWith (fills : Fills EntityRecord.layout rows values)
    (records : List EntityRecord) :
    Fills EntityRecord.layout (Database.rowsWith records rows) fun id =>
      ((records.reverse.find? (·.id == id)).map some).getD (values id) := by
  induction records using List.reverseRecOn with
  | nil => exact fills
  | append_singleton records r ih =>
    have after : Database.rowsWith (records ++ [r]) rows =
        Table.upserted [1, 2] r.id r.toRow (Database.rowsWith records rows) :=
      List.foldl_concat ..
    have found : (fun id => (((records ++ [r]).reverse.find? (·.id == id)).map some).getD
        (values id)) = Function.update (fun id =>
          ((records.reverse.find? (·.id == id)).map some).getD (values id)) r.id (some r) := by
      funext id
      rw [List.reverse_concat, List.find?_cons]
      by_cases same : r.id = id
      · subst same
        simp
      · rw [Function.update_of_ne (Ne.symm same), beq_false_of_ne same]
    rw [after, found]
    exact ih.upserted r

/-- Rows after the change of a mutation was made hold what it says. -/
theorem Table.Fills.rowsAfter (fills : Fills EntityRecord.layout rows values) (c : Change) :
    Fills EntityRecord.layout (Database.rowsAfter (c.fresh now) now rows)
      (Function.update values c.entityId
        (c.value?.map fun value => ⟨c.entityId, value, now⟩)) := by
  rw [Change.value?, Database.rowsAfter, show (c.fresh now).operation = c.operation from rfl]
  cases c.operation with
  | delete => exact fills.without c.entityId
  | _ => exact fills.upserted ⟨c.entityId, c.payload, now⟩

end Rows

/-! ## Engines -/

namespace Engine

variable {e : Engine}

theorem saveEntity_yields (s : e.view.Sound) (kind : EntityKind) (id : String) (value : Json)
    (now : Instant) :
    ∃ e', e.saveEntity kind id value now = (e', .ok ⟨id, value, now⟩) ∧
      e'.view = e.view.withDatabase (e.view.database.withRows (.collection kind)
        (upserted [1, 2] id (EntityRecord.toRow ⟨id, value, now⟩)
          (e.view.database.rowsOf (.collection kind)))) := by
  have put := s.healthy.putEntity kind ⟨id, value, now⟩
  exact change_yields s now _ (congrArg (Except.map fun db => (db, _)) put)

theorem saveEntities_yields (s : e.view.Sound) (kind : EntityKind) (items : List (String × Json))
    (now : Instant) :
    ∃ e', e.saveEntities kind items now = (e', .ok items.length) ∧
      e'.view = e.view.withDatabase (e.view.database.withRows (.collection kind)
        (Database.rowsWith (CopyStep.batch now items)
          (e.view.database.rowsOf (.collection kind)))) := by
  cases items with
  | nil =>
    -- The store is not touched.
    refine ⟨e, rfl, ?_⟩
    change _ = e.view.withDatabase (e.view.database.withRows _ (e.view.database.rowsOf _))
    rw [Database.Unguarded.withRows_self (s.healthy.table _ rfl)]
    rfl
  | cons item items =>
    obtain ⟨e', run, view⟩ := access_yields s now fun db =>
      db.putBatch kind (CopyStep.batch now (item :: items))
    simp only [s.healthy.putBatch] at run view
    simp only [CopyStep.batch] at run view ⊢
    simp only [saveEntities, run]
    exact ⟨_, rfl, (view_log _ _).trans view⟩

/-- Stores local copies one by one, with one common time. -/
def saveEach (e : Engine) (kind : EntityKind) (items : List (String × Json)) (now : Instant) :
    Engine :=
  items.foldl (fun e item => (e.saveEntity kind item.1 item.2 now).1) e

theorem view_saveEach (s : e.view.Sound) (kind : EntityKind) (items : List (String × Json))
    (now : Instant) :
    (e.saveEach kind items now).view =
      e.view.withDatabase (e.view.database.withRows (.collection kind)
        (Database.rowsWith (CopyStep.batch now items)
          (e.view.database.rowsOf (.collection kind)))) := by
  induction items generalizing e with
  | nil =>
    change _ = e.view.withDatabase (e.view.database.withRows _ (e.view.database.rowsOf _))
    rw [Database.Unguarded.withRows_self (s.healthy.table _ rfl)]
    rfl
  | cons item items ih =>
    obtain ⟨e', run, view⟩ := saveEntity_yields s kind item.1 item.2 now
    -- The others find the rows that the first one has left.
    have rest := ih (view ▸ s.withDatabase (s.healthy.withRows _ _))
    rw [saveEach, List.foldl_cons, run]
    rw [view] at rest
    refine rest.trans ?_
    simp only [View.withDatabase, Database.rowsOf_withRows_self, Database.withRows_withRows]
    rfl

def copyStep (e : Engine) (now : Instant) : CopyStep → Engine
  | .save kind id value => (e.saveEntity kind id value now).1
  | .saveAll kind items => (e.saveEntities kind items now).1
  | .delete kind id => (e.change now fun db => db.deleteEntity kind id).1
  | .clear kind => (e.change now fun db => db.clearEntities kind).1
  | .mutate c => (e.mutate (c.fresh now) now).1

def copyAll (e : Engine) (steps : List (Instant × CopyStep)) : Engine :=
  steps.foldl (fun e step => e.copyStep step.1 step.2) e

end Engine

/-- The collections of an engine hold the latest copies after some steps. -/
structure Copying (made : List (Instant × CopyStep)) (e : Engine) : Prop where
  sound : e.view.Sound
  fills : ∀ kind, Fills EntityRecord.layout (e.view.database.rowsOf (.collection kind))
    (latestCopy made kind)

namespace Copying

variable {made : List (Instant × CopyStep)} {e e' : Engine} {now : Instant} {step : CopyStep}

/-- One collection was written to, and the others are as they were. -/
theorem write (copying : Copying made e) (sound : e'.view.Sound)
    (others : ∀ kind ≠ step.kind, e'.view.database.rowsOf (.collection kind) =
      e.view.database.rowsOf (.collection kind))
    (fills : Fills EntityRecord.layout (e'.view.database.rowsOf (.collection step.kind)) fun id =>
      (step.verdict now step.kind id).getD (latestCopy made step.kind id)) :
    Copying (made ++ [(now, step)]) e' := by
  refine ⟨sound, fun kind => ?_⟩
  have latest : latestCopy (made ++ [(now, step)]) kind =
      fun id => (step.verdict now kind id).getD (latestCopy made kind id) :=
    funext fun id => latestCopy_concat made now step kind id
  rw [latest]
  by_cases same : kind = step.kind
  · rw [same]
    exact fills
  · -- On other kinds the step has no verdict.
    have silent (id : String) : step.verdict now kind id = none :=
      CopyStep.verdict_of_other_kind (Ne.symm same)
    simp only [silent, Option.getD_none, others kind same]
    exact copying.fills kind

/-- A statement on a collection writes to it and to nothing else. -/
theorem withRows (copying : Copying made e) {rows : List Row}
    (view : e'.view =
      e.view.withDatabase (e.view.database.withRows (.collection step.kind) rows))
    {values : String → Option EntityRecord}
    (latest : (fun id => (step.verdict now step.kind id).getD (latestCopy made step.kind id)) =
      values)
    (fills : Fills EntityRecord.layout rows values) :
    Copying (made ++ [(now, step)]) e' ∧
      keysOf e'.view.queueRows = keysOf e.view.queueRows := by
  have database : e'.view.database = e.view.database.withRows (.collection step.kind) rows := by
    rw [view]
    rfl
  refine ⟨copying.write ?_ (fun kind other => ?_) ?_, ?_⟩
  · rw [view]
    exact copying.sound.withDatabase (copying.sound.healthy.withRows _ _)
  · rw [database, Database.rowsOf_withRows_of_ne _ (by simpa using other)]
  · rw [database, Database.rowsOf_withRows_self, latest]
    exact fills
  · rw [View.queueRows, database, Database.rowsOf_withRows_of_ne _ (by simp)]
    rfl

theorem of_view (copying : Copying made e) (same : e'.view = e.view) : Copying made e' := by
  refine ⟨same ▸ copying.sound, fun kind => ?_⟩
  rw [same]
  exact copying.fills kind

theorem refused (copying : Copying made e)
    (refused : step.isRefused (keysOf e.view.queueRows) = true) :
    (e.copyStep now step).view = e.view := by
  cases step with
  | mutate c =>
    have taken : .text (c.fresh now).id ∈ keysOf e.view.queueRows :=
      List.contains_iff_mem.mp refused
    obtain ⟨e', fault, run, view⟩ := Engine.mutate_of_taken copying.sound now taken
    rw [Engine.copyStep, run]
    exact view
  | save | saveAll | delete | clear => cases refused

/-- A mutation that is not refused writes to the collection of its kind, and to the queue. -/
theorem mutate (copying : Copying made e) {c : Change}
    (fresh : .text c.id ∉ keysOf e.view.queueRows) :
    Copying (made ++ [(now, .mutate c)]) (e.mutate (c.fresh now) now).1 ∧
      keysOf (e.mutate (c.fresh now) now).1.view.queueRows =
        keysOf e.view.queueRows ++ [.text c.id] := by
  have sound := copying.sound
  obtain ⟨e', run, view⟩ := Engine.mutate_yields (m := c.fresh now) sound now fresh
  have database : e'.view.database = (e.view.database.withRows (.collection c.kind)
      (Database.rowsAfter (c.fresh now) now
        (e.view.database.rowsOf (.collection c.kind)))).withRows .queue
          (added e.view.queueRows (c.fresh now).toRow) := by
    rw [view, View.told_database]
    rfl
  -- The queue is another table, so of the two writings this collection shows the first one only.
  have rows : e'.view.database.rowsOf (.collection c.kind) = Database.rowsAfter (c.fresh now) now
      (e.view.database.rowsOf (.collection c.kind)) := by
    rw [database, Database.rowsOf_withRows_of_ne _ (by simp), Database.rowsOf_withRows_self]
  have latest := verdicts_at (k := c.kind) c.entityId
    (fun id => c.value?.map fun value => ⟨id, value, now⟩) (latestCopy made c.kind)
  rw [run]
  refine ⟨copying.write ?_ (fun kind other => ?_) ?_, ?_⟩
  · -- The requester is told last, and told or not the engine is sound.
    rw [view]
    exact ((sound.withDatabase (sound.healthy.withRows _ _)).withQueue _).told
  · have ne : TableName.collection kind ≠ .collection c.kind :=
      fun same => other (TableName.collection.inj same)
    rw [database, Database.rowsOf_withRows_of_ne _ (by simp), Database.rowsOf_withRows_of_ne _ ne]
  · rw [show (CopyStep.mutate c).kind = c.kind from rfl, rows]
    exact latest ▸ (copying.fills c.kind).rowsAfter c
  · rw [View.queueRows, database, Database.rowsOf_withRows_self, keysOf_added]
    rfl

/-- A step that is not refused has the last word on what it is about. -/
theorem advance (copying : Copying made e) (now : Instant)
    (heeded : ¬ step.isRefused (keysOf e.view.queueRows) = true) :
    Copying (made ++ [(now, step)]) (e.copyStep now step) ∧
      keysOf (e.copyStep now step).view.queueRows = step.taking (keysOf e.view.queueRows) := by
  have sound := copying.sound
  cases step with
  | save k id value =>
    obtain ⟨e', run, view⟩ := Engine.saveEntity_yields sound k id value now
    rw [Engine.copyStep, run]
    exact copying.withRows view (verdicts_at id (fun id => some ⟨id, value, now⟩) _)
      ((copying.fills k).upserted ⟨id, value, now⟩)
  | saveAll k items =>
    obtain ⟨e', run, view⟩ := Engine.saveEntities_yields sound k items now
    have latest (id : String) : (CopyStep.saveAll k items).verdict now k id = _ := if_pos rfl
    rw [Engine.copyStep, run]
    exact copying.withRows view (funext fun id => congrArg (Option.getD · _) (latest id))
      ((copying.fills k).rowsWith _)
  | delete k id =>
    have deleted : e.view.database.deleteKey (.collection k) id = _ :=
      sound.healthy.deleteKey rfl id
    obtain ⟨e', run, view⟩ := Engine.change_yields sound now (fun db => db.deleteEntity k id) (by
      rw [Database.deleteEntity, deleted]
      rfl)
    rw [Engine.copyStep, run]
    exact copying.withRows view (verdicts_at id (fun _ => none) _)
      ((copying.fills k).without id)
  | clear k =>
    have cleared : e.view.database.delete (.collection k) (fun _ => true) = _ :=
      Database.Unguarded.deleteAll (sound.healthy.table _ rfl)
    obtain ⟨e', run, view⟩ := Engine.change_yields sound now (fun db => db.clearEntities k) (by
      rw [Database.clearEntities, cleared]
      rfl)
    have latest (id : String) : (CopyStep.clear k).verdict now k id = some none := if_pos rfl
    rw [Engine.copyStep, run]
    exact copying.withRows view (funext fun id => congrArg (Option.getD · _) (latest id))
      (.nil _)
  | mutate c =>
    exact copying.mutate (mt List.contains_iff_mem.mpr heeded)

theorem all (copying : Copying made e) (steps : List (Instant × CopyStep)) :
    Copying (made ++ heeded (keysOf e.view.queueRows) steps) (e.copyAll steps) := by
  induction steps generalizing made e with
  | nil =>
    rw [heeded, List.append_nil]
    exact copying
  | cons step steps ih =>
    obtain ⟨now, step⟩ := step
    rw [heeded, Engine.copyAll, List.foldl_cons, ← Engine.copyAll]
    -- The ids in the queue are those that were taken so far, so both refuse the same steps.
    split
    next refused =>
      have same : (e.copyStep now step).view = e.view := copying.refused refused
      rw [← same]
      exact ih (copying.of_view same)
    next done =>
      obtain ⟨next, taking⟩ := copying.advance now done
      rw [← taking, List.append_cons]
      exact ih next

theorem start (sound : e.view.Sound)
    (bare : ∀ kind, e.view.database.rowsOf (.collection kind) = []) : Copying [] e := by
  refine ⟨sound, fun kind => ?_⟩
  rw [bare]
  exact .nil _

/-- A look-up finds the latest copy. -/
theorem found (copying : Copying made e) {kind : EntityKind} {id : String}
    (faithful : ∀ x, latestCopy made kind id = some x → x.value.Faithful) (now : Instant) :
    (e.query now fun db => db.entity? kind id).2 =
      .ok ((latestCopy made kind id).map EntityRecord.stored) := by
  obtain ⟨e', looked, -⟩ := Engine.query_yields copying.sound now fun db => db.entity? kind id
  rw [looked, copying.sound.healthy.entity?, copyOf]
  rcases (copying.fills kind).find?_cases id with ⟨absent, none⟩ | ⟨r, x, present, latest, made⟩
  · rw [absent, none]
    rfl
  · rw [present, latest]
    have read := EntityRecord.ofRow_of_cells made (faithful x latest)
    exact congrArg (Except.map some) read

/-- A list has the latest copies of its kind, and a count is that of the list. -/
theorem listed (copying : Copying made e) {kind : EntityKind}
    (plain : ∀ id x, latestCopy made kind id = some x → x.updatedAt.Regular ∧ x.value.Faithful)
    (now : Instant) :
    ∃ records, (e.query now fun db => db.entities kind).2 = .ok records ∧
      (∀ record, record ∈ records ↔
        (latestCopy made kind record.id).map EntityRecord.stored = some record) ∧
      (records.map (·.id)).Nodup ∧ records.Pairwise EntityRecord.Precedes ∧
      (e.query now fun db => db.countEntities kind).2 = .ok records.length := by
  have healthy := copying.sound.healthy
  obtain ⟨records, read, content, once, ordered, length⟩ :=
    EntityRecord.listed (copying.fills kind) plain
  refine ⟨records, ?_, content, once, ordered, ?_⟩
  · obtain ⟨e', looked, -⟩ := Engine.query_yields copying.sound now fun db => db.entities kind
    have selected : e.view.database.select (.collection kind) (fun _ => true) [2, 0] = _ :=
      Database.Unguarded.selectAll (healthy.table _ rfl) [2, 0]
    rw [looked, Database.entities, selected]
    exact read
  · obtain ⟨e', looked, -⟩ :=
      Engine.query_yields copying.sound now fun db => db.countEntities kind
    have counted : e.view.database.count (.collection kind) = _ := healthy.count rfl
    rw [looked, Database.countEntities, counted, length]
    rfl

end Copying

/-- After any steps on empty collections, the copy that is found of an entity is what the latest
step says that has a verdict on it, but for the part of a millisecond; a step without a verdict on
it makes no difference. A batch is as good as its items one by one at one time. The list of a
collection has one record for each id of which there is a copy, in strict order of times in
milliseconds and then of the bytes of ids, and they are counted as many. Of the steps only a
mutation can be refused, whose id is in the queue, and then it does nothing. -/
theorem copies_are_latest_verdicts {e : Engine} (sound : e.view.Sound)
    (bare : ∀ kind, e.view.database.rowsOf (.collection kind) = [])
    {steps : List (Instant × CopyStep)} (plain : ∀ step ∈ steps, step.1.Regular ∧ step.2.IsPlain)
    (now : Instant) (kind : EntityKind) :
    let made := heeded (keysOf e.view.queueRows) steps
    let after := e.copyAll steps
    (∀ id, (after.query now fun db => db.entity? kind id).2 =
        .ok ((latestCopy made kind id).map EntityRecord.stored)) ∧
      (∀ id start step, step.verdict start kind id = none →
        ((after.copyStep start step).query now fun db => db.entity? kind id).2 =
          (after.query now fun db => db.entity? kind id).2) ∧
      (∀ items start, (after.saveEntities kind items start).2 = .ok items.length ∧
        (after.saveEntities kind items start).1.view = (after.saveEach kind items start).view) ∧
      ∃ records, (after.query now fun db => db.entities kind).2 = .ok records ∧
        (∀ record, record ∈ records ↔
          (latestCopy made kind record.id).map EntityRecord.stored = some record) ∧
        (records.map (·.id)).Nodup ∧ records.Pairwise EntityRecord.Precedes ∧
        (after.query now fun db => db.countEntities kind).2 = .ok records.length := by
  intro made after
  have copying : Copying made after := (Copying.start sound bare).all steps
  have regular {id : String} {x : EntityRecord} (latest : latestCopy made kind id = some x) :
      x.updatedAt.Regular ∧ x.value.Faithful :=
    (of_latestCopy latest fun step member => plain step ((heeded_sublist _ _).subset member)).2
  refine ⟨fun id => copying.found (fun x latest => (regular latest).2) now,
    fun id start step silent => ?_, fun items start => ?_,
    copying.listed (fun id x latest => regular latest) now⟩
  · -- Refused or not, the step leaves the latest copy as it is.
    rw [copying.found (fun x latest => (regular latest).2) now]
    by_cases refused : step.isRefused (keysOf after.view.queueRows) = true
    · exact (copying.of_view (copying.refused refused)).found
        (fun x latest => (regular latest).2) now
    · have same : latestCopy (made ++ [(start, step)]) kind id = latestCopy made kind id := by
        rw [latestCopy_concat, silent]
        rfl
      rw [← same]
      exact (copying.advance start refused).1.found
        (fun x latest => (regular (same ▸ latest)).2) now
  · obtain ⟨e', run, view⟩ := Engine.saveEntities_yields copying.sound kind items start
    rw [run]
    exact ⟨rfl, view.trans (Engine.view_saveEach copying.sound kind items start).symm⟩

namespace Engine

/-- Two entities of one kind are saved at one time, one of them twice in a batch, and a third one is
deleted with a mutation; a later mutation of the same id is refused. -/
def sampleCopies : List (Instant × CopyStep) :=
  [(⟨1, 0⟩, .save .incidents "b" (.bool true)),
    (⟨1, 900⟩, .saveAll .incidents [("a", .null), ("c", .bool true), ("a", .bool false)]),
    (⟨2, 0⟩, .mutate ⟨"m1", .delete, .incidents, "c", .null⟩),
    (⟨3, 0⟩, .mutate ⟨"m1", .update, .incidents, "b", .null⟩),
    (⟨3, 0⟩, .save .audits "b" .null),
    (⟨4, 0⟩, .clear .audits)]

end Engine

/-- The theorem at a collection that was written to in every way. -/
theorem copies_after_batch_and_mutations :
    let after := (Engine.inMemory .default true).copyAll Engine.sampleCopies
    (after.query .epoch fun db => db.entity? .incidents "a").2 =
        .ok (some ⟨"a", .bool false, ⟨1, 0⟩⟩) ∧
      (after.query .epoch fun db => db.entity? .incidents "c").2 = .ok none ∧
      ∃ records, (after.query .epoch fun db => db.entities .incidents).2 = .ok records ∧
        ⟨"b", .bool true, ⟨1, 0⟩⟩ ∈ records ∧ records.Pairwise EntityRecord.Precedes := by
  intro after
  have bare : ∀ kind,
      (Engine.inMemory .default true).view.database.rowsOf (.collection kind) = [] := by
    intro kind
    cases kind <;> decide +kernel
  have plain : ∀ step ∈ Engine.sampleCopies, step.1.Regular ∧ step.2.IsPlain := by
    decide +kernel
  have none_queued : keysOf (Engine.inMemory .default true).view.queueRows = [] := by
    decide +kernel
  obtain ⟨found, -, -, records, listed, content, -, ordered, -⟩ := copies_are_latest_verdicts
    (Engine.inMemory_sound .default true) bare plain .epoch .incidents
  rw [none_queued] at found content
  refine ⟨found "a", found "c", records, listed, (content _).mpr rfl, ordered⟩

end Outbox
