import Outbox.Proofs.Launch
import Outbox.Proofs.Stock

/-!
# How often an id is confirmed

The queue, the list that a pass keeps to, and the call in flight can disagree about whether a
mutation is still there: a mutation that waits for its answer may be taken out of the queue by hand,
become a dead letter, and be queued anew, all under one id. Nevertheless no id is confirmed more
often than it was queued.

The invariant counts. An id was confirmed once more than it was requeued, at most; and as long as it
can be confirmed again, because it is in the queue or ahead in the pass in progress, not even once
more.
-/
namespace Outbox

open Table Time

/-! ## Counting -/

/-- Whether the remote side confirmed an id. -/
def Occurrence.confirms (id : String) : Occurrence → Bool
  | .answered m .confirmed => m.id == id
  | _ => false

/-- How often the remote side confirmed an id. -/
def confirmationsOf (id : String) (past : List Occurrence) : Nat := past.countP (·.confirms id)

theorem confirmationsOf_append {id : String} {done : List Occurrence} (past : List Occurrence)
    (none : ∀ d ∈ done, d.confirms id = false) :
    confirmationsOf id (done ++ past) = confirmationsOf id past := by
  have zero : done.countP (·.confirms id) = 0 := by
    rw [List.countP_eq_zero]
    intro d member confirms
    rw [none d member] at confirms
    cases confirms
  rw [confirmationsOf, List.countP_append, zero, Nat.zero_add]
  rfl

theorem Occurrence.confirms_atEnd {id : String} {rest : List Mutation} :
    ∀ d ∈ atEnd rest, d.confirms id = false :=
  forall_atEnd (P := (·.confirms id = false)) rfl rest

/-- Only an answer to the id itself confirms it. -/
theorem Occurrence.confirms_answered {id : String} {m : Mutation} {a : Answer}
    (other : a = .confirmed → m.id ≠ id) : (Occurrence.answered m a).confirms id = false := by
  cases a with
  | confirmed => exact beq_eq_false_iff_ne.mpr (other rfl)
  | failed _ | panicked => rfl

/-! ## The invariant -/

/-- The id may still be confirmed: it is in the queue, or the pass in progress waits for its answer
or has it ahead. -/
def Stock.Awaits (s : Stock) (id : String) : Prop :=
  .text id ∈ keysOf s.queue ∨ ∃ p, s.pass = some p ∧ id ∈ p.ids

/-- What is still awaited after an answer was awaited before it, and was not confirmed by it. -/
theorem Stock.awaits_of_settled {s : Stock} (distinct : s.Distinct) {policy : RetryPolicy}
    {now : Instant} {p : Pass} {a : Answer} {report : Report} (waits : s.pass = some p)
    (orderly : a ≠ .panicked) {id : String}
    (awaits : ((s.settled policy p.current now a).continued p.rest report).Awaits id) :
    s.Awaits id ∧ (a = .confirmed → p.current.id ≠ id) := by
  rcases awaits with present | ⟨q, waits', inPass⟩
  · -- The row of what was confirmed went away.
    rw [continued_queue] at present
    obtain ⟨earlier, fate⟩ := mem_keysOf_settled orderly present
    refine ⟨.inl earlier, fun confirmed same => ?_⟩
    obtain ⟨reason, failed⟩ := fate same
    rw [confirmed] at failed
    cases failed
  · -- The pass does not have it a second time.
    rw [Pass.ids, continued_pass waits'] at inPass
    refine ⟨.inr ⟨p, waits, List.mem_cons_of_mem _ inPass⟩, ?_⟩
    rintro - rfl
    exact (List.nodup_cons.mp (distinct.pass p waits)).1 inPass

structure Accounted (id : String) (past : List Occurrence) (s : Stock) : Prop where
  total : confirmationsOf id past ≤ past.count (.requeued id) + 1
  awaited : s.Awaits id → confirmationsOf id past ≤ past.count (.requeued id)

namespace Accounted

variable {id : String} {past done : List Occurrence} {s t : Stock}

/-- Where nothing was confirmed and the id did not come back, the account stays as it is. -/
theorem grow (accounted : Accounted id past s) (none : ∀ d ∈ done, d.confirms id = false)
    (still : t.Awaits id → s.Awaits id) : Accounted id (done ++ past) t := by
  have same := confirmationsOf_append past none
  have more : past.count (.requeued id) ≤ (done ++ past).count (.requeued id) := by
    rw [List.count_append]
    exact Nat.le_add_left _ _
  constructor
  · rw [same]
    exact accounted.total.trans (Nat.add_le_add_right more 1)
  · intro awaits
    rw [same]
    exact (accounted.awaited (still awaits)).trans more

theorem fewer (accounted : Accounted id past s) {rows letters : List Row}
    (none : ∀ d ∈ done, d.confirms id = false)
    (part : .text id ∈ keysOf rows → .text id ∈ keysOf s.queue) :
    Accounted id (done ++ past) { s with queue := rows, letters := letters } :=
  accounted.grow none fun awaits => awaits.imp part fun inPass => inPass

/-- An id that is queued for the first time was never confirmed. -/
theorem queue (accounted : Accounted id past s) {c : Change} {now : Instant}
    (new : confirmationsOf c.id past = 0) :
    Accounted id (.queued c :: past) { s with queue := added s.queue (c.fresh now).toRow } := by
  by_cases same : c.id = id
  · subst same
    have zero : confirmationsOf c.id (.queued c :: past) = 0 := new
    constructor
    · rw [zero]
      exact Nat.zero_le _
    · intro _
      rw [zero]
      exact Nat.zero_le _
  · change Accounted id ([.queued c] ++ past) _
    apply accounted.grow (List.forall_mem_singleton.mpr rfl)
    intro awaits
    apply awaits.imp_left
    intro present
    refine ((mem_keysOf_added rfl).mp present).resolve_right fun equal => ?_
    exact same (Cell.text.inj equal).symm

/-- An id that is queued anew may be confirmed once more. -/
theorem revive (accounted : Accounted id past s) {id' : String} {l : DeadLetter} {now : Instant}
    {letters : List Row} (named : l.mutation.id = id') :
    Accounted id (.requeued id' :: past)
      { s with queue := added s.queue (l.mutation.renewed now).toRow, letters := letters } := by
  by_cases same : id' = id
  · subst same
    -- Nothing was confirmed, while the count of requeues has grown by one.
    have total : confirmationsOf id' (.requeued id' :: past) ≤
        (Occurrence.requeued id' :: past).count (.requeued id') := by
      rw [List.count_cons_self]
      exact accounted.total
    exact ⟨total.trans (Nat.le_succ _), fun _ => total⟩
  · change Accounted id ([.requeued id'] ++ past) _
    apply accounted.grow (List.forall_mem_singleton.mpr rfl)
    intro awaits
    apply awaits.imp_left
    intro present
    refine ((mem_keysOf_added rfl).mp present).resolve_right fun equal => ?_
    exact same (named.symm.trans (Cell.text.inj equal).symm)

theorem start (accounted : Accounted id past s) {queued : List Mutation}
    (listed : (sortRows (rowLE [5]) s.queue).mapM Mutation.ofRow = .ok queued) :
    Accounted id (Occurrence.atEnd queued ++ [.began] ++ past) (s.continued queued .empty) := by
  apply accounted.grow
  · intro d member
    rcases List.mem_append.mp member with ends | begins
    · exact Occurrence.confirms_atEnd d ends
    · rw [List.mem_singleton.mp begins]
      rfl
  · -- A pass has ahead what is in the queue.
    rintro (present | ⟨p, waits, inPass⟩)
    · left
      rwa [Stock.continued_queue] at present
    · left
      rw [Pass.ids, Stock.continued_pass waits] at inPass
      exact (mem_listed_iff listed).mp inPass

/-- A confirmation takes the place that the id still had in the account. -/
theorem confirm (accounted : Accounted id past s) {m : Mutation} (same : m.id = id)
    (rest : List Mutation) (awaits : s.Awaits id) (done : ¬ t.Awaits id) :
    Accounted id (Occurrence.atEnd rest ++ [.answered m .confirmed] ++ past) t := by
  have room := accounted.awaited awaits
  have confirms : (Occurrence.answered m .confirmed).confirms id = true := beq_iff_eq.mpr same
  have counted : confirmationsOf id (Occurrence.atEnd rest ++ [.answered m .confirmed] ++ past) =
      confirmationsOf id past + 1 := by
    rw [List.append_assoc, confirmationsOf_append _ Occurrence.confirms_atEnd]
    exact List.countP_cons_of_pos confirms
  have requeues :
      (Occurrence.atEnd rest ++ [Occurrence.answered m .confirmed] ++ past).count
        (.requeued id) =
      past.count (.requeued id) := by
    cases rest <;> simp [Occurrence.atEnd]
  constructor
  · rw [counted, requeues]
    exact Nat.add_le_add_right room 1
  · exact fun awaits => absurd awaits done

theorem settle (accounted : Accounted id past s) (distinct : s.Distinct) {policy : RetryPolicy}
    {now : Instant} {p : Pass} {a : Answer} {report : Report} (waits : s.pass = some p)
    (orderly : a ≠ .panicked) :
    Accounted id (Occurrence.atEnd p.rest ++ [.answered p.current a] ++ past)
      ((s.settled policy p.current now a).continued p.rest report) := by
  by_cases confirmed : a = .confirmed ∧ p.current.id = id
  · obtain ⟨rfl, same⟩ := confirmed
    apply accounted.confirm same
    · exact .inr ⟨p, waits, same ▸ List.mem_cons_self⟩
    · intro awaits
      exact (Stock.awaits_of_settled distinct waits orderly awaits).2 rfl same
  · apply accounted.grow
    · intro d member
      rcases List.mem_append.mp member with ends | answered
      · exact Occurrence.confirms_atEnd d ends
      · rw [List.mem_singleton.mp answered]
        exact Occurrence.confirms_answered fun sure same => confirmed ⟨sure, same⟩
    · exact fun awaits => (Stock.awaits_of_settled distinct waits orderly awaits).1

end Accounted

/-- Every move keeps the account of every id, as long as no id is queued for the first time after it
was confirmed. -/
theorem Shift.accounted {policy : RetryPolicy} {now : Instant} {id : String}
    {past done : List Occurrence} {s t : Stock} (shift : Shift policy now s done t)
    (distinct : s.Distinct) (new : ∀ c, .queued c ∈ done → confirmationsOf c.id past = 0)
    (accounted : Accounted id past s) : Accounted id (done ++ past) t := by
  cases shift with
  | quiet talk =>
    apply accounted.grow _ fun awaits => awaits
    intro d member
    cases d with
    | answered m a => cases talk _ member
    | _ => rfl
  | @queue c fresh => exact accounted.queue (new c List.mem_cons_self)
  | remove present =>
    exact accounted.fewer (by simp [Occurrence.confirms]) fun h => (mem_keysOf_without.mp h).1
  | clear =>
    refine accounted.fewer (fun d member => ?_) fun none => (by cases none)
    obtain ⟨_, -, rfl⟩ := List.mem_map.mp member
    rfl
  | bury found read =>
    exact accounted.fewer (fun d none => (by cases none)) fun h => (mem_keysOf_without.mp h).1
  -- Only a requeue lets an id be confirmed once more, and it is counted as such.
  | revive found read fresh => exact accounted.revive (DeadLetter.id_of_found found read)
  | discard present => exact accounted.fewer (by simp [Occurrence.confirms]) fun h => h
  | start idle listed => exact accounted.start listed
  | settle waits orderly => exact accounted.settle distinct waits orderly
  | panic waits =>
    apply accounted.grow (by simp [Occurrence.confirms])
    rintro (present | ⟨q, none, -⟩)
    · exact .inl present
    · cases none

/-! ## Runs -/

namespace Session

/-- Every change gets an id that is not taken and was not confirmed before. -/
def Unconfirmed (s : Session) (_now : Instant) (move : Move) : Prop :=
  s.NewId move ∧ ∀ c ∈ move.change?, confirmationsOf c.id s.past = 0

instance (s : Session) (now : Instant) (move : Move) : Decidable (s.Unconfirmed now move) :=
  inferInstanceAs (Decidable (s.NewId move ∧ ∀ c ∈ move.change?, confirmationsOf c.id s.past = 0))

structure Audited (s : Session) : Prop extends Keyed s where
  accounts : ∀ id, Accounted id s.past s.engine.view.stock

theorem Audited.after {s : Session} (audited : s.Audited) {now : Instant} {move : Move}
    (ok : s.Unconfirmed now move) : (s.after now move).Audited := by
  have moved := after_moved audited.sound now ok.1.isFresh
  refine ⟨audited.toKeyed.after now ok.1, fun id => ?_⟩
  apply moved.shift.accounted audited.distinct _ (audited.accounts id)
  intro c queued
  exact ok.2 c (Engine.change_of_queued queued)

theorem Audited.of_run {s t : Session} (audited : s.Audited) (run : Run Unconfirmed s t) :
    t.Audited := by
  induction run with
  | refl => exact audited
  | step _ ok ih => exact ih.after ok

theorem Audited.start {e : Engine} (sound : e.view.Sound) (once : (idsOf e.view.queueRows).Nodup)
    (idle : e.isProcessing = false) (clock : Instant) : Audited ⟨e, [], clock⟩ where
  toKeyed := .start sound once idle clock
  accounts _ := ⟨Nat.zero_le _, fun _ => Nat.le_refl 0⟩

end Session

/-- In every state of every run, with whatever is done by hand while calls are in flight and however
many passes there are, an id was confirmed once at most, and once more at most for each time it was
queued anew. -/
theorem confirmations_le_requeues_add_one {e : Engine} (sound : e.view.Sound)
    (once : (idsOf e.view.queueRows).Nodup) (idle : e.isProcessing = false) {clock : Instant}
    {s : Session} (run : Session.Run Session.Unconfirmed ⟨e, [], clock⟩ s) (id : String) :
    confirmationsOf id s.past ≤ 1 + s.past.count (.requeued id) := by
  have audited := (Session.Audited.start sound once idle clock).of_run run
  rw [Nat.add_comm]
  exact (audited.accounts id).total

namespace Session

def sampleTwice : Change := ⟨"m1", .update, .incidents, "i1", .obj [("open", .bool true)]⟩

/-- A mutation becomes a dead letter while its call is in flight. The call is confirmed all the
same, and so is the one that follows when the mutation is queued anew. -/
def sampleTwiceConfirmed : Session :=
  (⟨Engine.inMemory .default true, [], .epoch⟩ : Session).through
    [.enqueue sampleTwice, .process, .deadLetter "m1", .answer .confirmed, .requeue "m1",
      .process, .answer .confirmed]

end Session

/-- The theorem where the bound is reached. -/
theorem confirmed_again_after_requeue :
    confirmationsOf "m1" Session.sampleTwiceConfirmed.past = 2 ∧
      confirmationsOf "m1" Session.sampleTwiceConfirmed.past ≤ 1 + 1 := by
  have requeues : Session.sampleTwiceConfirmed.past.count (.requeued "m1") = 1 := by
    decide +kernel
  have bound := confirmations_le_requeues_add_one (Engine.inMemory_sound .default true)
    (by decide +kernel) (by decide +kernel) (s := Session.sampleTwiceConfirmed)
    (.through .refl (by decide +kernel)) "m1"
  rw [requeues] at bound
  exact ⟨by decide +kernel, bound⟩

end Outbox
