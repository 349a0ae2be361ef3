import Outbox.Proofs.Launch
import Outbox.Proofs.Stock

/-!
# The order of deliveries

The queue is first in, first out, and a pass sends what it found in that order; but a failure that
passes holds nothing back, so a later mutation of the same entity can be confirmed while an earlier
one waits. How far the order goes is exactly this: whenever a mutation is confirmed while an earlier
one is still queued, the earlier one was sent in the same pass before and failed for a while.

Two invariants carry this. In the queue the rows of the two stand in the order in which they were
queued, with times that agree. In a pass that has still to send the later one, the earlier one
comes before it, or was answered already.
-/
namespace Outbox

open Table Time

/-! ## Two rows of the queue -/

/-- While both ids are in the queue, the row of the first stands before the row of the second and
is no younger. -/
structure InOrder (x y : String) (queue : List Row) : Prop where
  rows : .text x ∈ keysOf queue → .text y ∈ keysOf queue →
    ∃ a b : Row, [a, b].Sublist queue ∧ a.cell 0 = .text x ∧ b.cell 0 = .text y ∧ a.time ≤ b.time
  once : (idsOf queue).count y ≤ 1

namespace InOrder

variable {x y : String} {queue : List Row}

theorem nil : InOrder x y [] := ⟨fun h => (by cases h), Nat.zero_le 1⟩

/-- A row with another key is appended. -/
theorem added (order : InOrder x y queue) {id : String} {cells : List Cell}
    (key : cells[0]? = some (.text id)) (hx : id ≠ x) (hy : id ≠ y) :
    InOrder x y (Table.added queue cells) := by
  refine ⟨fun inX inY => ?_, ?_⟩
  · rw [mem_keysOf_added key] at inX inY
    obtain ⟨a, b, pair, rest⟩ := order.rows (inX.resolve_right fun h => hx (Cell.text.inj h).symm)
      (inY.resolve_right fun h => hy (Cell.text.inj h).symm)
    exact ⟨a, b, pair.trans (List.sublist_append_left _ _), rest⟩
  · rw [idsOf_added key, List.count_append, List.count_singleton]
    simpa [hy] using order.once

theorem without (order : InOrder x y queue) (id : String) :
    InOrder x y (Table.without id queue) := by
  refine ⟨fun inX inY => ?_, ?_⟩
  · obtain ⟨inX, hx⟩ := mem_keysOf_without.mp inX
    obtain ⟨inY, hy⟩ := mem_keysOf_without.mp inY
    obtain ⟨a, b, pair, ha, hb, le⟩ := order.rows inX inY
    -- Both rows have other keys than the one that leaves, so the pair survives the filter.
    have kept : [a, b].filter (fun r => !r.hasKey id) = [a, b] := by
      have keepA : a.hasKey id = false := by
        rw [← Bool.not_eq_true, Row.hasKey_iff, ha]
        exact hx
      have keepB : b.hasKey id = false := by
        rw [← Bool.not_eq_true, Row.hasKey_iff, hb]
        exact hy
      simp [keepA, keepB]
    exact ⟨a, b, kept ▸ pair.filter _, ha, hb, le⟩
  · exact (List.Sublist.count_le y (idsOf_sublist List.filter_sublist)).trans order.once

/-- Writing a retry state back moves no row and changes no time. -/
theorem replaced (order : InOrder x y queue) (m : Mutation) :
    InOrder x y (Table.replaced [6, 7, 8] m.id m.toRow queue) := by
  have keys := m.keysOf_replaced m.id queue
  refine ⟨fun inX inY => ?_, by rw [idsOf, keys]; exact order.once⟩
  rw [keys] at inX inY
  obtain ⟨a, b, pair, ha, hb, le⟩ := order.rows inX inY
  -- The rows are changed in place, so the same pair stands there with the same times.
  let changed (r : Row) : Row := if r.hasKey m.id then r.overwrite [6, 7, 8] m.toRow else r
  have cell (r : Row) : (changed r).cell 0 = r.cell 0 := by
    simp only [changed]
    split
    · exact m.cell_overwrite r _ (by decide)
    · rfl
  have time (r : Row) : (changed r).time = r.time := by
    simp only [changed]
    split
    · exact m.time_overwrite r
    · rfl
  refine ⟨changed a, changed b, pair.map changed, ?_, ?_, ?_⟩
  · rw [cell, ha]
  · rw [cell, hb]
  · rw [time, time]
    exact le

/-- The queue is listed in this order. -/
theorem listed (order : InOrder x y queue) {queued : List Mutation}
    (listed : (sortRows (rowLE [5]) queue).mapM Mutation.ofRow = .ok queued) :
    (queued.map (·.id)).count y ≤ 1 ∧
      (.text x ∈ keysOf queue → .text y ∈ keysOf queue → [x, y].Sublist (queued.map (·.id))) := by
  have ids := idsOf_of_listed (listed_iff_byTime.mp listed)
  rw [← ids]
  constructor
  · exact ((idsOf_perm (byTime_perm queue)).count_eq y).le.trans order.once
  · intro inX inY
    obtain ⟨a, b, pair, ha, hb, le⟩ := order.rows inX inY
    have both : idsOf [a, b] = [x, y] := by simp [idsOf, keysOf, ha, hb]
    rw [← both]
    -- The listing is stable, so equal times do not swap the two.
    exact idsOf_sublist (pair_sublist_byTime le pair)

end InOrder

/-! ## Passes -/

/-- A mutation failed for a while in the pass in progress. -/
def Deferred (x : String) (past : List Occurrence) : Prop :=
  ∃ later m reason earlier, past = later ++ .answered m (.failed (.transient reason)) :: earlier ∧
    m.id = x ∧ .began ∉ later

theorem Deferred.grow {x : String} {past more : List Occurrence} (deferred : Deferred x past)
    (same : .began ∉ more) : Deferred x (more ++ past) := by
  obtain ⟨later, m, reason, earlier, rfl, id, none⟩ := deferred
  refine ⟨more ++ later, m, reason, earlier, by rw [List.append_assoc], id, ?_⟩
  rw [List.mem_append, not_or]
  exact ⟨same, none⟩

/-- The order of two ids in the queue, and in a pass that has still to send the second one. -/
structure Ahead (x y : String) (past : List Occurrence) (s : Stock) : Prop where
  queue : InOrder x y s.queue
  once : ∀ p, s.pass = some p → p.ids.count y ≤ 1
  first : ∀ p, s.pass = some p → y ∈ p.ids → .text x ∈ keysOf s.queue →
    [x, y].Sublist p.ids ∨ Deferred x past

/-- Occurrences after which two ids are what they were: neither is queued or requeued. -/
structure Untouched (x y : String) (done : List Occurrence) : Prop where
  queued : ∀ c, .queued c ∈ done → c.id ≠ x ∧ c.id ≠ y
  requeued : ∀ id, .requeued id ∈ done → id ≠ x ∧ id ≠ y

namespace Ahead

variable {x y : String} {past done : List Occurrence} {s t : Stock}

/-- What happens outside of the pass: ids leave the queue, or others join it. -/
theorem of_queue (ahead : Ahead x y past s) (queue : InOrder x y t.queue)
    (fewer : .text x ∈ keysOf t.queue → .text x ∈ keysOf s.queue) (pass : t.pass = s.pass)
    (same : .began ∉ done) : Ahead x y (done ++ past) t where
  queue := queue
  once := pass ▸ ahead.once
  first p waits inPass inX := by
    rw [pass] at waits
    exact (ahead.first p waits inPass (fewer inX)).imp_right fun h => h.grow same

/-- The first id leaves the queue with the answer, or its failure passes. -/
theorem settle (ahead : Ahead x y past s) {now : Instant} {p : Pass} {policy : RetryPolicy}
    {a : Answer} {report : Report} (waits : s.pass = some p) (orderly : a ≠ .panicked) :
    Ahead x y (Occurrence.atEnd p.rest ++ [.answered p.current a] ++ past)
      ((s.settled policy p.current now a).continued p.rest report) := by
  refine ⟨?_, fun p' waits' => ?_, fun p' waits' inPass inX => ?_⟩
  · rw [Stock.continued_queue]
    rcases a with _ | ⟨reason | ⟨status, reason⟩⟩ | _
    · exact ahead.queue.without _
    · have written := ahead.queue.replaced
        (p.current.retained policy (Failure.transient reason).message)
      rw [Mutation.retained_id] at written
      exact written
    · exact ahead.queue.without _
    · exact absurd rfl orderly
  · rw [Pass.ids, Stock.continued_pass waits']
    exact (List.Sublist.count_le y (List.sublist_cons_self _ _)).trans (ahead.once p waits)
  · rw [Pass.ids, Stock.continued_pass waits'] at inPass ⊢
    rw [Stock.continued_queue] at inX
    have going : Occurrence.atEnd p.rest = [] := by
      cases h : p.rest with
      | nil => simp [h] at inPass
      | cons _ _ => rfl
    rw [going]
    obtain ⟨before, stays⟩ := Stock.mem_keysOf_settled orderly inX
    -- If it is the first one's turn, it is still queued only because it failed for a while.
    by_cases current : p.current.id = x
    · obtain ⟨reason, rfl⟩ := stays current
      exact .inr ⟨[], p.current, reason, past, rfl, current, by simp⟩
    · refine (ahead.first p waits (List.mem_cons_of_mem _ inPass) before).imp (fun pair => ?_)
        fun deferred => deferred.grow (by simp)
      rcases List.sublist_cons_iff.mp pair with behind | ⟨r, same, -⟩
      · exact behind
      · exact absurd (List.cons.inj same).1.symm current

theorem start (ahead : Ahead x y past s) {queued : List Mutation}
    (listed : (sortRows (rowLE [5]) s.queue).mapM Mutation.ofRow = .ok queued) :
    Ahead x y (Occurrence.atEnd queued ++ [.began] ++ past) (s.continued queued .empty) := by
  obtain ⟨once, first⟩ := ahead.queue.listed listed
  refine ⟨?_, fun p waits => ?_, fun p waits inPass inX => .inl ?_⟩
  · rw [Stock.continued_queue]
    exact ahead.queue
  · rw [Pass.ids, Stock.continued_pass waits]
    exact once
  · rw [Pass.ids, Stock.continued_pass waits] at inPass ⊢
    rw [Stock.continued_queue] at inX
    exact first inX ((mem_listed_iff listed).mp inPass)

theorem shift {policy : RetryPolicy} {now : Instant} (ahead : Ahead x y past s)
    (shift : Shift policy now s done t) (untouched : Untouched x y done) :
    Ahead x y (done ++ past) t := by
  cases shift with
  | quiet talk =>
    refine ahead.of_queue ahead.queue (fun h => h) rfl fun h => ?_
    cases talk _ h
  | @queue c fresh =>
    -- A new row comes last and is of neither id, so the two keep their places.
    obtain ⟨hx, hy⟩ := untouched.queued c List.mem_cons_self
    refine ahead.of_queue (ahead.queue.added rfl hx hy) (fun h => ?_) rfl (by simp)
    exact ((mem_keysOf_added rfl).mp h).resolve_right fun same => hx (Cell.text.inj same).symm
  | remove present =>
    exact ahead.of_queue (ahead.queue.without _) (fun h => (mem_keysOf_without.mp h).1) rfl
      (by simp)
  | clear => exact ahead.of_queue .nil (fun h => (by cases h)) rfl (by simp)
  | bury found read =>
    exact ahead.of_queue (ahead.queue.without _) (fun h => (mem_keysOf_without.mp h).1) rfl
      (by simp)
  | @revive id r l found read fresh =>
    have same : l.mutation.id = id := DeadLetter.id_of_found found read
    obtain ⟨hx, hy⟩ := untouched.requeued id List.mem_cons_self
    rw [← same] at hx hy
    refine ahead.of_queue (ahead.queue.added rfl hx hy) (fun h => ?_) rfl (by simp)
    exact ((mem_keysOf_added rfl).mp h).resolve_right fun same => hx (Cell.text.inj same).symm
  | discard present => exact ahead.of_queue ahead.queue (fun h => h) rfl (by simp)
  | start idle listed => exact ahead.start listed
  | settle waits orderly => exact ahead.settle waits orderly
  | panic waits => exact ⟨ahead.queue, fun p none => (by cases none), fun p none => (by cases none)⟩

end Ahead

/-! ## Runs -/

/-- Rows of an id that are not younger than an instant. -/
def Aged (x : String) (clock : Instant) (queue : List Row) : Prop :=
  ∀ r ∈ queue, r.cell 0 = .text x → r.time ≤ clock.toMillis

theorem Aged.added {x : String} {clock now : Instant} {queue : List Row}
    (aged : Aged x clock queue) (later : clock.toMillis ≤ now.toMillis) {m : Mutation}
    (time : m.enqueuedAt = now) : Aged x now (Table.added queue m.toRow) := by
  refine forall_added (fun r member key => (aged r member key).trans later) fun number _ => ?_
  change m.enqueuedAt.toMillis ≤ now.toMillis
  rw [time]

theorem Shift.aged {x : String} {policy : RetryPolicy} {clock now : Instant} {s t : Stock}
    {done : List Occurrence} (shift : Shift policy now s done t)
    (later : clock.toMillis ≤ now.toMillis)
    (aged : Aged x clock s.queue) : Aged x now t.queue := by
  -- The clock did not go back, so what is there is old enough, and what comes bears its time.
  have old : Aged x now s.queue := fun r member key => (aged r member key).trans later
  have fewer (id : String) : Aged x now (without id s.queue) :=
    fun r member => old r (List.mem_of_mem_filter member)
  cases shift with
  | queue fresh => exact aged.added later rfl
  | revive found read fresh => exact aged.added later rfl
  | remove present => exact fewer _
  | bury found read => exact fewer _
  | clear => exact fun r member => by cases member
  | start idle listed =>
    rw [Stock.continued_queue]
    exact old
  | @settle p a report waits orderly =>
    rw [Stock.continued_queue]
    rcases a with _ | ⟨reason | ⟨status, reason⟩⟩ | _
    · exact fewer _
    · refine forall_replaced old fun r member _ key => ?_
      rw [Mutation.toRow, Mutation.cell_overwrite _ r _ (by decide)] at key
      rw [Mutation.time_overwrite]
      exact old r member key
    · exact fewer _
    · exact absurd rfl orderly
  | quiet talk => exact old
  | discard present => exact old
  | panic waits => exact old

/-- A new id is queued behind the rows that are there. -/
theorem Ahead.enqueue {x : String} {past : List Occurrence} {s : Stock} {c : Change}
    {clock now : Instant} (aged : Aged x clock s.queue) (later : clock.toMillis ≤ now.toMillis)
    (fresh : .text c.id ∉ keysOf s.queue) (other : x ≠ c.id)
    (unsent : ∀ p, s.pass = some p → c.id ∉ p.ids) :
    Ahead x c.id (.queued c :: past)
      { s with queue := Table.added s.queue (c.fresh now).toRow } := by
  refine ⟨⟨fun inX _ => ?_, ?_⟩, fun p waits => ?_, fun p waits inPass => ?_⟩
  · -- The new row is the last one, and the clock did not go back since the first one was queued.
    have before := ((mem_keysOf_added rfl).mp inX).resolve_right fun h => other (Cell.text.inj h)
    obtain ⟨r, member, key⟩ := mem_keysOf.mp before
    refine ⟨r, _, (List.singleton_sublist.mpr member).append (.refl _), key, rfl, ?_⟩
    exact (aged r member key).trans later
  · have none : (idsOf s.queue).count c.id = 0 := List.count_eq_zero.mpr (mt mem_idsOf.mp fresh)
    have ids : idsOf (Table.added s.queue (c.fresh now).toRow) = idsOf s.queue ++ [c.id] :=
      idsOf_added rfl
    rw [ids, List.count_append, none, List.count_singleton_self]
  · rw [List.count_eq_zero.mpr (unsent p waits)]
    exact Nat.zero_le 1
  · exact absurd inPass (unsent p waits)

namespace Session

/-- Every change gets an id that is not taken, and the clock does not go back. -/
def Allows (s : Session) (now : Instant) (move : Move) : Prop :=
  s.clock.toMillis ≤ now.toMillis ∧ s.NewId move

instance (s : Session) (now : Instant) (move : Move) : Decidable (s.Allows now move) :=
  inferInstanceAs (Decidable (_ ∧ _))

/-- What a run keeps true of two changes. -/
structure Orders (a b : Change) (s : Session) : Prop where
  sound : s.engine.view.Sound
  aged : .queued a ∈ s.past → Aged a.id s.clock s.engine.view.queueRows
  ahead : [.queued b, .queued a].Sublist s.past → .requeued a.id ∉ s.past →
    .requeued b.id ∉ s.past → Ahead a.id b.id s.past s.engine.view.stock

theorem Orders.after {a b : Change} {s : Session} (orders : Orders a b s) {now : Instant}
    {move : Move} (ok : s.Allows now move) : Orders a b (s.after now move) := by
  have moved := after_moved orders.sound now ok.2.isFresh
  rcases moved.shift.queued_cases with ⟨c, done, fresh, stock⟩ | none
  · have unknown : c.id ∉ s.takenIds := ok.2 c (Engine.change_of_queued (by rw [done]; simp))
    have shift := moved.shift
    rw [done] at shift
    refine ⟨moved.sound orders.sound, fun queued => ?_, fun order once once' => ?_⟩
    · refine shift.aged ok.1 ?_
      rw [past_after, done] at queued
      rcases List.mem_cons.mp queued with same | before
      · cases same
        exact fun r member key => absurd (mem_keysOf.mpr ⟨r, member, key⟩) fresh
      · exact orders.aged before
    · rw [past_after, done] at order once once' ⊢
      rcases List.sublist_cons_iff.mp order with before | ⟨first, same, rest⟩
      · -- Both were queued before, and what is queued now is a third change.
        have ahead := orders.ahead before (fun h => once (List.mem_cons_of_mem _ h))
          fun h => once' (List.mem_cons_of_mem _ h)
        refine ahead.shift shift ⟨fun c' h => ?_, by simp⟩
        cases List.mem_singleton.mp h
        have told (d : Change) (member : .queued d ∈ [Occurrence.queued b, .queued a]) :
            c.id ≠ d.id :=
          fun same => unknown (same ▸ taken_of_queued (before.subset member))
        exact ⟨told a (by simp), told b (by simp)⟩
      · -- The second one is queued now; this is where it gets its place behind the first one.
        obtain ⟨same, rfl⟩ := List.cons.inj same
        cases same
        have told : .queued a ∈ s.past := rest.subset List.mem_cons_self
        rw [show (s.after now move).engine.view.stock = _ from stock]
        refine .enqueue (orders.aged told) ok.1 fresh (fun same => ?_) fun p waits inPass => ?_
        · exact unknown (same ▸ taken_of_queued told)
        · exact unknown (taken_of_pass waits inPass)
  · refine ⟨moved.sound orders.sound, fun queued => ?_, fun order once once' => ?_⟩
    · refine moved.shift.aged ok.1 (orders.aged ?_)
      exact (List.mem_append.mp queued).resolve_left (none a)
    · rw [past_after] at order once once' ⊢
      -- This move queues nothing, so both were queued before it.
      have before : [.queued b, .queued a].Sublist s.past := by
        obtain ⟨l, rest, same, inDone, inPast⟩ := List.sublist_append_iff.mp order
        cases l with
        | nil => exact same ▸ inPast
        | cons d l =>
          cases (List.cons.inj same).1
          exact absurd (inDone.subset List.mem_cons_self) (none b)
      have ahead := orders.ahead before (fun h => once (List.mem_append_right _ h))
        fun h => once' (List.mem_append_right _ h)
      refine ahead.shift moved.shift ⟨fun c h => absurd h (none c), fun id h => ⟨?_, ?_⟩⟩
      · rintro rfl
        exact once (List.mem_append_left _ h)
      · rintro rfl
        exact once' (List.mem_append_left _ h)

theorem Orders.of_run {a b : Change} {e : Engine} (sound : e.view.Sound) {clock : Instant}
    {s : Session} (run : Run Allows ⟨e, [], clock⟩ s) : Orders a b s := by
  induction run with
  | refl => exact ⟨sound, fun h => (by cases h), fun h => (by cases h)⟩
  | step _ ok ih => exact ih.after ok

end Session

/-- Whenever the answer for a mutation is awaited while one that was queued before it, and never
anew, is still in the queue, the earlier one was sent before in the same pass and failed for a
while. So a mutation is confirmed ahead of an earlier one only after such a failure. -/
theorem earlier_deferred_when_later_in_flight {e : Engine} (sound : e.view.Sound) {clock : Instant}
    {s : Session} (run : Session.Run Session.Allows ⟨e, [], clock⟩ s) {a b : Change}
    (order : [.queued b, .queued a].Sublist s.past) (once : .requeued a.id ∉ s.past)
    (once' : .requeued b.id ∉ s.past) {m : Mutation} (sent : s.engine.inFlight = some m)
    (id : m.id = b.id) (queued : .text a.id ∈ keysOf s.engine.view.queueRows) :
    Deferred a.id s.past := by
  obtain ⟨p, waits, rfl⟩ := Option.map_eq_some_iff.mp sent
  have ahead := (Session.Orders.of_run sound run).ahead order once once'
  have inPass : b.id ∈ p.ids := by
    rw [Pass.ids, List.map_cons, id]
    exact List.mem_cons_self
  rcases ahead.first p waits inPass queued with pair | deferred
  · -- Were the first one still ahead, the second one would be in the pass twice.
    have last : b.id ∈ p.rest.map (·.id) := by
      rw [Pass.ids, List.map_cons, id] at pair
      rcases List.sublist_cons_iff.mp pair with behind | ⟨r, same, behind⟩
      · exact behind.subset (by simp)
      · obtain ⟨-, rfl⟩ := List.cons.inj same
        exact behind.subset (by simp)
    have twice := ahead.once p waits
    rw [Pass.ids, List.map_cons, id, List.count_cons_self] at twice
    have more := List.count_pos_iff.mpr last
    omega
  · exact deferred

namespace Session

def sampleFirst : Change := ⟨"m1", .update, .incidents, "i1", .obj [("n", .bool false)]⟩

def sampleSecond : Change := ⟨"m2", .update, .incidents, "i1", .obj [("n", .bool true)]⟩

/-- Two changes of one entity are queued and a pass begins; the call for the first one fails. -/
def sampleDeferred : Session :=
  (⟨Engine.inMemory .default true, [], .epoch⟩ : Session).through
    [.enqueue sampleFirst, .enqueue sampleSecond, .process,
      .answer (.failed (.transient "HTTP 503"))]

theorem sampleDeferred_run :
    Run Allows ⟨Engine.inMemory .default true, [], .epoch⟩ sampleDeferred :=
  .through .refl (by decide +kernel)

end Session

/-- The theorem at a session in which the call for the second change of an entity is in flight. -/
theorem first_deferred_when_second_in_flight :
    Session.sampleDeferred.engine.inFlight.map (·.id) = some "m2" ∧
      .text "m1" ∈ keysOf Session.sampleDeferred.engine.view.queueRows ∧
      Deferred "m1" Session.sampleDeferred.past := by
  have past : Session.sampleDeferred.past =
      [.answered (Session.sampleFirst.fresh .epoch) (.failed (.transient "HTTP 503")), .began,
        .queued Session.sampleSecond, .queued Session.sampleFirst] := by decide +kernel
  have sent : Session.sampleDeferred.engine.inFlight =
      some (Session.sampleSecond.fresh .epoch) := by decide +kernel
  have queued : .text "m1" ∈ keysOf Session.sampleDeferred.engine.view.queueRows := by
    decide +kernel
  refine ⟨by rw [sent]; rfl, queued, ?_⟩
  have order : [.queued Session.sampleSecond, .queued Session.sampleFirst].Sublist
      Session.sampleDeferred.past := by
    rw [past]
    decide +kernel
  exact earlier_deferred_when_later_in_flight (Engine.inMemory_sound _ _)
    Session.sampleDeferred_run order (by rw [past]; simp) (by rw [past]; simp) sent rfl queued

/-- Deliveries of one entity are not in order: the remote side may confirm a change while an
earlier one of the same entity waits in the queue. -/
theorem entity_order_fails :
    ¬ ∀ s, Session.Run Session.Allows ⟨Engine.inMemory .default true, [], .epoch⟩ s →
      ∀ a b : Change, a.kind = b.kind → a.entityId = b.entityId →
        [.queued b, .queued a].Sublist s.past →
        (∀ id ∈ [a.id, b.id], .removed id ∉ s.past ∧ .requeued id ∉ s.past ∧
          .text id ∉ keysOf s.engine.view.letterRows) →
        ∀ m : Mutation, m.id = b.id → .answered m .confirmed ∈ s.past →
          .text a.id ∉ keysOf s.engine.view.queueRows := by
  intro ordered
  have run : Session.Run Session.Allows ⟨Engine.inMemory .default true, [], .epoch⟩
      (Session.sampleDeferred.after .epoch (.answer .confirmed)) :=
    .step Session.sampleDeferred_run ⟨le_rfl, by decide +kernel⟩
  have past : (Session.sampleDeferred.after .epoch (.answer .confirmed)).past =
      [.ended, .answered (Session.sampleSecond.fresh .epoch) .confirmed,
        .answered (Session.sampleFirst.fresh .epoch) (.failed (.transient "HTTP 503")), .began,
        .queued Session.sampleSecond, .queued Session.sampleFirst] := by decide +kernel
  have order : [.queued Session.sampleSecond, .queued Session.sampleFirst].Sublist
      (Session.sampleDeferred.after .epoch (.answer .confirmed)).past := by
    rw [past]
    decide +kernel
  have letters : (Session.sampleDeferred.after .epoch (.answer .confirmed)).engine.view.letterRows =
      [] := by decide +kernel
  have waits : .text "m1" ∈
      keysOf (Session.sampleDeferred.after .epoch (.answer .confirmed)).engine.view.queueRows := by
    decide +kernel
  refine ordered _ run Session.sampleFirst Session.sampleSecond rfl rfl order ?_
    (Session.sampleSecond.fresh .epoch) rfl ?_ waits
  · rw [past, letters]
    simp [keysOf]
  · rw [past]
    simp

end Outbox
