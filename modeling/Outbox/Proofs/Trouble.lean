import Outbox.Proofs.Attempts

/-!
# Trouble with single mutations

A pass in a store that refuses some of the write-backs is compared with the same pass in a store in
which nothing stands in their way. The mutations whose write-back is refused are as they were before
the pass, and neither told nor counted; all others are as after the other pass.

The refused mutations are given by their ids, and everything the two passes leave can be told apart
by ids: the rows of the queue and of the dead letters by their keys, and what is told of fates by
the mutation that it is about.
-/
namespace Outbox

open Table Time

/-! ## Some ids -/

namespace Table

/-- Whether a cell holds one of some ids. -/
def Cell.isOf (ids : List String) (c : Cell) : Bool := ids.any fun id => c.sameValue (.text id)

theorem Cell.isOf_text {ids : List String} {id : String} :
    (Cell.text id).isOf ids = true ↔ id ∈ ids := by
  simp [isOf, List.any_eq_true, Cell.sameValue_text]

/-- The contents of rows after a row was added or merged, as `upserted` has it. -/
def upsertedCells (positions : List Nat) (id : String) (cells : List Cell)
    (contents : List (List Cell)) : List (List Cell) :=
  let keyed (old : List Cell) : Bool := ((old[0]?).getD Cell.null).sameValue (.text id)
  if contents.any keyed then
    contents.map fun old => if keyed old then replaceAt positions old cells else old
  else contents ++ [cells]

variable {positions : List Nat} {id : String} {cells : List Cell} {keep : Cell → Bool}

theorem cells_upserted (rows : List Row) :
    (upserted positions id cells rows).map (·.cells) =
      upsertedCells positions id cells (rows.map (·.cells)) := by
  have any : (rows.map (·.cells)).any
      (fun old => ((old[0]?).getD Cell.null).sameValue (.text id)) = rows.any (·.hasKey id) := by
    rw [List.any_map]
    rfl
  rw [upserted, upsertedCells]
  simp only [any]
  split
  · rw [replaced, List.map_map, List.map_map]
    refine List.map_congr_left fun r _ => ?_
    change (if r.hasKey id then r.overwrite positions cells else r).cells =
      if r.hasKey id then replaceAt positions r.cells cells else r.cells
    split <;> rfl
  · rw [added, List.map_append]
    rfl

/-- Where the rows of an id are among those that are picked, it makes no difference for their
contents whether rows are picked first. -/
theorem cells_filter_upserted (kept : positions.contains 0 = false)
    (key : cells[0]? = some (.text id)) (picked : keep (.text id) = true) (rows : List Row) :
    ((upserted positions id cells rows).filter fun r => keep (r.cell 0)).map (·.cells) =
      upsertedCells positions id cells ((rows.filter fun r => keep (r.cell 0)).map (·.cells)) := by
  have filled : cells ≠ [] := by
    rintro rfl
    cases key
  have any : (rows.filter fun r => keep (r.cell 0)).any (·.hasKey id) = rows.any (·.hasKey id) := by
    rw [List.any_filter]
    refine congrArg rows.any (funext fun r => ?_)
    cases keyed : r.hasKey id with
    | true => rw [Row.hasKey_iff.mp keyed, picked]; rfl
    | false => rw [Bool.and_false]
  rw [← cells_upserted, upserted, upserted, any]
  split
  · rw [filter_replaced kept filled]
  · have new : (Row.mk (ofRows rows).nextNumber cells).cell 0 = .text id := by
      rw [Row.cell, key, Option.getD_some]
    rw [added, List.filter_append, List.filter_singleton, new, picked, added, List.map_append,
      List.map_append]
    rfl

end Table

namespace Exchange

variable {p : RetryPolicy} {xs : List Exchange} {keep : Cell → Bool}

/-- Of rows that are picked by their keys only the answers to such mutations matter. -/
theorem filter_answered (rows : List Row) :
    (answered p xs rows).filter (fun r => keep (r.cell 0)) =
      answered p (xs.filter fun x => keep (.text x.sent.id))
        (rows.filter fun r => keep (r.cell 0)) := by
  induction xs generalizing rows with
  | nil => rfl
  | cons x xs ih =>
    refine (ih _).trans ?_
    rw [List.filter_cons]
    cases picked : keep (.text x.sent.id) with
    | true =>
      rw [filter_filterMap_row?]
      rfl
    | false =>
      rw [filter_filterMap_row?_of_other keep picked]
      rfl

/-- The letters of such mutations are the letters with such keys. -/
theorem filter_letters :
    (xs.filterMap (·.letter?)).filter (fun l => keep (.text l.mutation.id)) =
      (xs.filter fun x => keep (.text x.sent.id)).filterMap (·.letter?) := by
  rw [List.filter_filterMap, List.filterMap_filter]
  refine List.filterMap_congr fun x _ => ?_
  cases letter : x.letter? with
  | none => simp
  | some l => rw [Option.filter_some, letter_id letter]

end Exchange

/-- The contents of the dead letters after some more. -/
def filedCells (letters : List DeadLetter) (contents : List (List Cell)) : List (List Cell) :=
  letters.foldl (fun contents l => upsertedCells [6, 7, 8] l.mutation.id l.toRow contents) contents

/-- What rows hold that are picked by their keys depends on what such rows have held and on the
letters of such keys. -/
theorem cells_filter_filed {keep : Cell → Bool} (letters : List DeadLetter) (rows : List Row) :
    ((filed letters rows).filter fun r => keep (r.cell 0)).map (·.cells) =
      filedCells (letters.filter fun l => keep (.text l.mutation.id))
        ((rows.filter fun r => keep (r.cell 0)).map (·.cells)) := by
  induction letters generalizing rows with
  | nil => rfl
  | cons l letters ih =>
    refine (ih _).trans ?_
    rw [List.filter_cons]
    cases picked : keep (.text l.mutation.id) with
    | true =>
      rw [cells_filter_upserted rfl rfl picked]
      rfl
    | false =>
      rw [filter_upserted_of_other keep rfl rfl picked]
      rfl

/-! ## What is told of fates -/

/-- The id of the mutation whose fate an effect tells. -/
def Effect.itemId? : Effect → Option String
  | .emitted (.itemSynced id ..) | .emitted (.itemFailed id ..) | .emitted (.itemExhausted id ..)
  | .emitted (.itemDeadLettered id ..) => some id
  | _ => none

namespace Exchange

variable {p : RetryPolicy} {xs : List Exchange}

theorem itemId?_of_events {x : Exchange} {event : Event} (member : event ∈ x.events p) :
    (Effect.emitted event).itemId? = some x.sent.id := by
  rcases failed : x.failure with _ | reason | ⟨status, reason⟩
  all_goals simp only [events, failed] at member
  · cases List.mem_singleton.mp member
    rfl
  · split at member
    · rcases List.mem_cons.mp member with rfl | member
      · rfl
      · cases List.mem_singleton.mp member
        rfl
    · cases List.mem_singleton.mp member
      rfl
  · cases List.mem_singleton.mp member
    rfl

/-- What is told of fates is picked by the mutations that it is about. -/
theorem filter_told {pick : Effect → Bool} {chosen : Exchange → Bool}
    (same : ∀ x ∈ xs, ∀ event ∈ x.events p, pick (.emitted event) = chosen x) :
    (told p xs).filter pick = told p (xs.filter chosen) := by
  induction xs with
  | nil => rfl
  | cons x xs ih =>
    have first : (told p [x]).filter pick = told p (if chosen x then [x] else []) := by
      rw [told_singleton, List.filter_map]
      have choice : ∀ event ∈ x.events p, (pick ∘ Effect.emitted) event = chosen x :=
        same x List.mem_cons_self
      generalize chosen x = choose at choice ⊢
      cases choose with
      | true => rw [List.filter_eq_self.mpr choice, if_pos rfl, told_singleton]
      | false =>
        rw [List.filter_eq_nil_iff.mpr fun event member =>
          Bool.eq_false_iff.mp (choice event member)]
        rfl
    rw [List.filter_cons, ← List.singleton_append, told_append, List.filter_append, first,
      ih fun y member => same y (List.mem_cons_of_mem _ member), ← told_append]
    split <;> rfl

end Exchange

/-! ## Nothing in the way -/

namespace Database

/-- The database with nothing in the way of the queue and of the dead letters: both tables are there
and without guards, and transactions can be committed. -/
def unhindered (db : Database) : Database :=
  { (db.withRows .queue (db.rowsOf .queue)).withRows .deadLetters (db.rowsOf .deadLetters) with
    isFull := false }

variable (db : Database)

theorem rowsOf_unhindered_queue : db.unhindered.rowsOf .queue = db.rowsOf .queue := rfl

theorem unguarded_unhindered_queue : db.unhindered.Unguarded .queue := rfl

theorem unguarded_unhindered_letters : db.unhindered.Unguarded .deadLetters := rfl

variable {db}

theorem Unguarded.countable (unguarded : db.Unguarded .queue) : db.Countable := by
  intro t there g stands
  rw [show db.get? .queue = _ from unguarded, Option.mem_some_iff] at there
  subst there
  cases stands

theorem Unguarded.refuses {name : TableName} (unguarded : db.Unguarded name) (action : Action)
    (cells : List Cell) : db.refuses name action cells = false := by
  rw [Database.refuses, show db.get? name = _ from unguarded]
  rfl

theorem mutations_unhindered {queued : List Mutation} (listed : db.mutations = .ok queued) :
    db.unhindered.mutations = .ok queued := by
  rw [db.unguarded_unhindered_queue.mutations, rowsOf_unhindered_queue]
  exact read_of_mutations listed

end Database

theorem Exchange.isRefused_unhindered (p : RetryPolicy) (db : Database) (x : Exchange) :
    x.isRefused p db.unhindered = false := by
  have queue := db.unguarded_unhindered_queue
  have letters := db.unguarded_unhindered_letters
  rw [isRefused_eq_barred queue.countable, barred]
  split
  · exact queue.refusesId
  · exact queue.refusesId
  · rw [letters.refuses, letters.refusesId, queue.refusesId]
    rfl

/-! ## Shares -/

/-- What a store holds of some mutations, and what was told of their fates. -/
@[ext] structure Share where
  queue : List Row
  /-- The contents of the dead letters, without the numbers of their rows. -/
  letters : List (List Cell)
  told : List Effect

namespace Engine

/-- The share of the mutations with some keys. -/
def share (e : Engine) (keep : Cell → Bool) : Share where
  queue := e.view.queueRows.filter fun r => keep (r.cell 0)
  letters := (e.view.letterRows.filter fun r => keep (r.cell 0)).map (·.cells)
  told := (e.about .fate).filter fun x => x.itemId?.any fun id => keep (.text id)

end Engine

/-- A share after some exchanges that went through. -/
def Share.after (p : RetryPolicy) (s : Share) (xs : List Exchange) : Share where
  queue := answered p xs s.queue
  letters := filedCells (xs.filterMap (·.letter?)) s.letters
  told := s.told ++ Exchange.told p xs

theorem Share.after_nil (p : RetryPolicy) (s : Share) : s.after p [] = s :=
  Share.ext rfl rfl (List.append_nil _)

/-- After a pass, the share of some mutations is what their own exchanges make of it. -/
theorem share_after_pass {p : RetryPolicy} {xs : List Exchange} {e e' : Engine}
    {sent : List Mutation} {passed : List Effect} (countable : e.view.database.Countable)
    (distinct : (xs.map (·.sent.id)).Nodup)
    (becomes : e.Becomes e'
      (e.view.afterPass (Exchange.writtenBack p xs e.view.database) sent)
      (Exchange.told p (Exchange.taken p xs e.view.database)) passed) (keep : Cell → Bool) :
    e'.share keep = (e.share keep).after p
      ((xs.filter fun x => !x.isRefused p e.view.database).filter
        fun x => keep (.text x.sent.id)) := by
  obtain ⟨chosen, queue, letters⟩ := Exchange.writtenBack_spec countable distinct
  rw [← chosen]
  -- Rows, letters and events are picked alike: by the id of the mutation that they belong to.
  refine Share.ext ?_ ?_ ?_
  · have rows : e'.view.queueRows = _ := (congrArg View.queueRows becomes.view).trans queue
    rw [Engine.share, rows]
    exact Exchange.filter_answered _
  · have rows : e'.view.letterRows = _ := (congrArg View.letterRows becomes.view).trans letters
    rw [Engine.share, rows]
    exact (cells_filter_filed _ _).trans (by rw [Exchange.filter_letters]; rfl)
  · rw [Engine.share, becomes.fates]
    refine (List.filter_append _ _).trans
      (congrArg _ (Exchange.filter_told fun x _ event member => ?_))
    rw [Exchange.itemId?_of_events member, Option.any_some]

/-! ## Two passes -/

/-- The count of the mutations of a fate. -/
def Report.count (r : Report) : Fate → Nat
  | .delivered => r.succeeded
  | .retried => r.retried
  | .exhausted => r.exhausted
  | .refused => r.deadLettered

theorem Report.count_through (p : RetryPolicy) (attempts counted : List Exchange) (f : Fate) :
    (Report.empty.through p attempts counted).count f = counted.countP (·.fate p = f) := by
  cases f <;> exact Nat.zero_add _

/-- The same engine with nothing in the way of the queue and of the dead letters. -/
def Engine.unhindered (e : Engine) : Engine := e.setDatabase e.database.unhindered

/-- The ids of the mutations whose write-back the store refuses when the pass begins; it refuses the
same ones in their turn. -/
def Exchange.refusedIds (p : RetryPolicy) (xs : List Exchange) (db : Database) : List String :=
  (xs.filter (·.isRefused p db)).map (·.sent.id)

/-- What a pass comes to in which the store refuses the write-backs for some ids, next to the same
pass where it refuses none. -/
structure Contained (xs : List Exchange) (ids : List String) (now : Instant)
    (before after smooth : Engine) (report smoothReport : Report) : Prop where
  /-- The pass is published, and all its mutations are sent and answered in turn. -/
  stages : after.about .pass =
    before.about .pass ++ .emitted (.statusChanged .syncing now) :: Exchange.stages xs now
  idle : after.isProcessing = false
  attempted : report.attempted = xs.length
  counted : ∀ f, report.count f =
    xs.countP fun x => x.sent.id ∉ ids ∧ x.fate before.policy = f
  smoothCounted : ∀ f, smoothReport.count f = xs.countP (·.fate before.policy = f)
  /-- Nothing becomes of the refused mutations, and nothing is told of them. -/
  kept : after.share (·.isOf ids) = before.share (·.isOf ids)
  /-- All others end as if nothing was refused. -/
  others : (after.share fun c => !c.isOf ids) = smooth.share fun c => !c.isOf ids

namespace Exchange

variable {p : RetryPolicy} {xs : List Exchange} {db : Database}

theorem mem_refusedIds_iff (distinct : (xs.map (·.sent.id)).Nodup) {x : Exchange}
    (member : x ∈ xs) : x.sent.id ∈ refusedIds p xs db ↔ x.isRefused p db = true := by
  constructor
  · intro taken
    obtain ⟨y, picked, same⟩ := List.mem_map.mp taken
    obtain ⟨there, refused⟩ := List.mem_filter.mp picked
    rwa [← List.inj_on_of_nodup_map distinct there member same]
  · exact fun refused => List.mem_map.mpr ⟨x, List.mem_filter.mpr ⟨member, refused⟩, rfl⟩

/-- The mutations that are not refused are known by their ids. -/
theorem isOf_refusedIds (distinct : (xs.map (·.sent.id)).Nodup) {x : Exchange} (member : x ∈ xs) :
    (Cell.text x.sent.id).isOf (refusedIds p xs db) = x.isRefused p db := by
  rw [Bool.eq_iff_iff, Cell.isOf_text, mem_refusedIds_iff distinct member]

/-- Counting the exchanges that are not refused is counting those of other ids. -/
theorem countP_not_isRefused (distinct : (xs.map (·.sent.id)).Nodup) (f : Fate) :
    (xs.filter fun x => !x.isRefused p db).countP (·.fate p = f) =
      xs.countP fun x => x.sent.id ∉ refusedIds p xs db ∧ x.fate p = f := by
  rw [List.countP_filter]
  refine List.countP_congr fun x member => ?_
  have other : (!x.isRefused p db) = true ↔ x.sent.id ∉ refusedIds p xs db := by
    rw [mem_refusedIds_iff distinct member, Bool.not_eq_true', Bool.not_eq_true]
  simp only [Bool.and_eq_true, decide_eq_true_eq]
  exact and_comm.trans (and_congr_left' other)

theorem filter_not_isRefused_unhindered :
    (xs.filter fun x => !x.isRefused p db.unhindered) = xs :=
  List.filter_eq_self.mpr fun x _ => by rw [isRefused_unhindered, Bool.not_false]

end Exchange

namespace Engine

variable {e : Engine}

theorem view_unhindered (isOpen : e.view.link.isSome = true) :
    e.unhindered.view = e.view.withDatabase e.view.database.unhindered :=
  view_setDatabase isOpen _

/-- Nobody's share depends on what stands in the way. -/
theorem share_unhindered (isOpen : e.view.link.isSome = true) (keep : Cell → Bool) :
    e.unhindered.share keep = e.share keep := by
  rw [share, view_unhindered isOpen]
  rfl

end Engine

/-- Whatever stands in the way of the queue and of the dead letters, be it guards, missing tables or
transactions that cannot be committed: a pass sends all mutations that it listed in their order,
ends in good order and is published as such. The mutations whose write-back the store refuses are
what they were before the pass, are counted as attempts only, and nothing is told of them. All
others are after the pass what they are after one in which nothing stands in the way.

The rows of the queue may be counted, since a removal is not undone if only the count after it
fails. -/
theorem trouble_stays_with_refused {e : Engine} (isOpen : e.view.link.isSome = true)
    (countable : e.view.database.Countable) (online : e.isOnline = true)
    (idle : e.isProcessing = false) {xs : List Exchange}
    (listed : e.view.database.mutations = .ok (xs.map (·.sent)))
    (distinct : (xs.map (·.sent.id)).Nodup) (alone : ∀ x ∈ xs, x.arrivals = []) (now : Instant) :
    ∃ after report smooth smoothReport,
      e.wholePass now xs = (after, some (.finished report)) ∧
      e.unhindered.wholePass now xs = (smooth, some (.finished smoothReport)) ∧
      Contained xs (Exchange.refusedIds e.policy xs e.view.database) now e after smooth report
        smoothReport := by
  have free : e.view.pass = none := Engine.isProcessing_eq_false_iff.mp idle
  have clear := Engine.view_unhindered isOpen
  obtain ⟨after, run, becomes⟩ := wholePass_through isOpen online free listed alone now
  obtain ⟨smooth, run', becomes'⟩ := wholePass_through (e := e.unhindered)
    (by rw [clear]; exact isOpen) (by rw [clear]; exact online) (by rw [clear]; exact free)
    (by rw [clear]; exact Database.mutations_unhindered listed) alone now
  have database : e.unhindered.view.database = e.view.database.unhindered :=
    congrArg View.database clear
  have countable' : e.unhindered.view.database.Countable := by
    rw [database]
    exact e.view.database.unguarded_unhindered_queue.countable
  have chosen := (Exchange.writtenBack_spec (p := e.policy) countable distinct).1
  -- Where nothing stands in the way, every write-back goes through.
  have all : Exchange.taken e.policy xs e.unhindered.view.database = xs := by
    rw [(Exchange.writtenBack_spec countable' distinct).1, database]
    exact Exchange.filter_not_isRefused_unhindered
  -- No id is there twice, so an exchange is refused if its id is one of the refused ones.
  have refused {x : Exchange} (member : x ∈ xs) :
      (Cell.text x.sent.id).isOf (Exchange.refusedIds e.policy xs e.view.database) =
        x.isRefused e.policy e.view.database := Exchange.isOf_refusedIds distinct member
  refine ⟨after, _, smooth, _, run, run', ?_⟩
  exact {
    stages := becomes.passed
    idle := Engine.isProcessing_eq_false_iff.mpr (congrArg View.pass becomes.view)
    attempted := Nat.zero_add _
    counted f := by
      rw [Report.count_through, chosen]
      exact Exchange.countP_not_isRefused distinct f
    smoothCounted f := by
      rw [Report.count_through]
      exact congrArg (List.countP _) all
    kept := by
      rw [share_after_pass countable distinct becomes, List.filter_filter,
        List.filter_eq_nil_iff.mpr, Share.after_nil]
      intro x member
      rw [refused member, Bool.and_not_self]
      exact Bool.false_ne_true
    others := by
      rw [share_after_pass countable distinct becomes,
        share_after_pass countable' distinct becomes', Engine.share_unhindered isOpen, database,
        Exchange.filter_not_isRefused_unhindered, List.filter_filter]
      refine congrArg (Share.after _ _) (List.filter_congr fun x member => ?_)
      rw [refused member]
      exact Bool.and_self _ }

namespace Exchange

/-- The exchanges of the samples without anything that is queued meanwhile. -/
def lone : List Exchange := samples.map fun x => { x with arrivals := [] }

/-- The engine of the samples without dead letters and with a guard on one of its mutations. -/
def troubledEngine : Engine :=
  let db := sampleEngine.database
  sampleEngine.setDatabase
    { db with
      queue := db.queue.map fun t => { t with guards := [⟨.update, 0, .text "m2"⟩] }
      deadLetters := none }

end Exchange

/-- The theorem at a pass in which a guard keeps one mutation from being retried and another one has
no dead letters to go to. -/
theorem trouble_stays_with_two_of_three :
    ∃ after report smooth smoothReport,
      Exchange.troubledEngine.wholePass .epoch Exchange.lone =
        (after, some (.finished report)) ∧
      Exchange.troubledEngine.unhindered.wholePass .epoch Exchange.lone =
        (smooth, some (.finished smoothReport)) ∧
      Contained Exchange.lone ["m2", "m3"] .epoch Exchange.troubledEngine after smooth report
        smoothReport ∧
      report = ⟨3, 1, 0, 0, 0⟩ := by
  have refused : Exchange.refusedIds Exchange.troubledEngine.policy Exchange.lone
      Exchange.troubledEngine.view.database = ["m2", "m3"] := by decide +kernel
  have policy : Exchange.troubledEngine.policy = ⟨2⟩ := by decide +kernel
  have listed : Exchange.troubledEngine.view.database.mutations =
      .ok (Exchange.lone.map (·.sent)) := by decide +kernel
  have contained := trouble_stays_with_refused (by decide +kernel) (by decide +kernel)
    (by decide +kernel) (by decide +kernel) listed (by decide +kernel) (by decide +kernel) .epoch
  rw [refused] at contained
  obtain ⟨after, report, smooth, smoothReport, run, run', contained⟩ := contained
  refine ⟨after, report, smooth, smoothReport, run, run', contained, ?_⟩
  rcases report with ⟨attempted, succeeded, retried, exhausted, deadLettered⟩
  obtain rfl : attempted = 3 := contained.attempted
  obtain rfl : succeeded = 1 :=
    (contained.counted .delivered).trans (by rw [policy]; decide +kernel)
  obtain rfl : retried = 0 := (contained.counted .retried).trans (by rw [policy]; decide +kernel)
  obtain rfl : exhausted = 0 :=
    (contained.counted .exhausted).trans (by rw [policy]; decide +kernel)
  obtain rfl : deadLettered = 0 :=
    (contained.counted .refused).trans (by rw [policy]; decide +kernel)
  rfl

namespace Exchange

/-- A mutation is confirmed, and while it was on its way another one was queued. -/
def overtaken : Exchange :=
  ⟨sampleMutation "m1", [⟨sampleMutation "m2", false, .epoch⟩], none, .epoch⟩

/-- The queue holds the first mutation, and it cannot be looked at once the other one is there. -/
def dazzledEngine : Engine :=
  let e := Engine.arrive (.inMemory ⟨2⟩ true) ⟨overtaken.sent, false, .epoch⟩
  let db := e.database
  e.setDatabase
    { db with queue := db.queue.map fun t => { t with guards := [⟨.read, 0, .text "m2"⟩] } }

end Exchange

/-- The queue cannot be counted after the removal of a confirmed mutation. So the write-back fails:
the mutation counts as an attempt only and nothing is told of it; but its row is gone. -/
theorem uncounted_removal_stays :
    (let before := Exchange.dazzledEngine
     let pass := before.wholePass .epoch [Exchange.overtaken]
     before.database.mutations = .ok [Exchange.overtaken.sent] ∧
       before.view.queueRows = [⟨1, Exchange.overtaken.sent.toRow⟩] ∧
       pass.2 = some (.finished ⟨1, 0, 0, 0, 0⟩) ∧
       pass.1.about .fate = before.about .fate ∧
       pass.1.view.queueRows = [⟨2, (Exchange.sampleMutation "m2").toRow⟩]) :=
  ⟨by decide +kernel, by decide +kernel, rfl, rfl, by decide +kernel⟩

end Outbox
