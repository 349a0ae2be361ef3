import Outbox.Proofs.Launch
import Outbox.Proofs.Stock

/-!
# What was removed by hand

A mutation that is taken out of the queue stays out of it. But the pass that is in progress then
has read the queue before, and it keeps to what it has read: if the turn of the mutation was still
to come, it is sent all the same, once, and a refusal makes a dead letter of it. No pass that begins
later knows of the mutation.

The invariant is seen from the moment of the removal. It says where the id may still be: nowhere in
the queue, and in the pass only while that is the one which was in progress at the removal, whose
mutations are the last ones of what it had still to try then.
-/
namespace Outbox

open Table Time

/-! ## One table for each id -/

/-- No id is in the queue and among the dead letters at once. -/
def Stock.Apart (s : Stock) : Prop :=
  ∀ id, .text id ∈ keysOf s.queue → .text id ∉ keysOf s.letters

namespace Stock.Apart

variable {s : Stock}

/-- Rows may go away at any time. -/
theorem fewer (apart : s.Apart) {rows letters : List Row}
    (queue : ∀ id, .text id ∈ keysOf rows → .text id ∈ keysOf s.queue)
    (left : ∀ id, .text id ∈ keysOf letters → .text id ∈ keysOf s.letters) :
    ({ s with queue := rows, letters := letters } : Stock).Apart := by
  intro id present inLetters
  exact apart id (queue id present) (left id inLetters)

theorem buried (apart : s.Apart) (l : DeadLetter) : (s.buried l).Apart := by
  intro id present inLetters
  obtain ⟨before, other⟩ := mem_keysOf_without.mp present
  rcases (mem_keysOf_upserted rfl rfl).mp inLetters with earlier | same
  · exact apart id before earlier
  · exact other same

theorem added (apart : s.Apart) {m : Mutation} {letters : List Row}
    (left : ∀ id, .text id ∈ keysOf letters → .text id ∈ keysOf s.letters)
    (fresh : .text m.id ∉ keysOf letters) :
    ({ s with queue := Table.added s.queue m.toRow, letters := letters } : Stock).Apart := by
  intro id present inLetters
  rcases (mem_keysOf_added rfl).mp present with before | same
  · exact apart id before (left id inLetters)
  · cases same
    exact fresh inLetters

theorem settled (apart : s.Apart) (policy : RetryPolicy) (m : Mutation) (now : Instant)
    (a : Answer) : (s.settled policy m now a).Apart := by
  rcases a with _ | ⟨reason | ⟨status, reason⟩⟩ | _
  · exact apart.fewer (fun id present => (mem_keysOf_without.mp present).1) fun _ left => left
  · refine apart.fewer (fun id present => ?_) fun _ left => left
    rwa [Mutation.keysOf_replaced] at present
  · exact apart.buried _
  · exact apart

end Stock.Apart

/-- Whatever enters one of the two tables leaves the other one. -/
theorem Shift.apart {policy : RetryPolicy} {now : Instant} {s t : Stock} {done : List Occurrence}
    (shift : Shift policy now s done t) (apart : s.Apart)
    (new : ∀ c, .queued c ∈ done → .text c.id ∉ keysOf s.letters) : t.Apart := by
  cases shift with
  | quiet talk => exact apart
  | queue fresh => exact apart.added (fun _ left => left) (new _ List.mem_cons_self)
  | remove present =>
    exact apart.fewer (fun id present => (mem_keysOf_without.mp present).1) fun _ left => left
  | clear => exact apart.fewer (fun id present => by cases present) fun _ left => left
  | bury found read => exact apart.buried _
  | revive found read fresh =>
    -- The letter is deleted before its mutation is queued.
    refine apart.added (fun id left => (mem_keysOf_without.mp left).1) fun left => ?_
    have same := DeadLetter.id_of_found found read
    exact (mem_keysOf_without.mp left).2 (congrArg Cell.text same)
  | discard present =>
    exact apart.fewer (fun _ present => present) fun id left => (mem_keysOf_without.mp left).1
  | @start queued idle listed =>
    intro id present
    rw [Stock.continued_queue] at present
    rw [Stock.continued_letters]
    exact apart id present
  | @settle p a report waits orderly =>
    intro id present
    rw [Stock.continued_queue] at present
    rw [Stock.continued_letters]
    exact apart.settled policy p.current now a id present
  | panic waits => exact apart

/-! ## After a removal -/

/-- A call for a mutation that was removed: no pass has begun since, the one that was in progress at
the removal had the mutation still before it, and this is the first call for it since. -/
structure LateCall (p : Option Pass) (done : List Occurrence) (sent : List Mutation)
    (m : Mutation) :
    Prop where
  unbegun : .began ∉ done
  ahead : ∃ q ∈ p, m ∈ q.rest
  first : ∀ m' ∈ sent, m'.id ≠ m.id

/-- A mutation that the pass in progress at the removal had before it was refused since. -/
def RefusedSince (id : String) (p : Option Pass) (done : List Occurrence) : Prop :=
  ∃ q ∈ p, ∃ m ∈ q.current :: q.rest, m.id = id ∧
    ∃ status reason, .answered m (.failed (.permanent status reason)) ∈ done

/-- Where an id may be after its removal. The pass `p` is the one that was in progress at the
removal, `done` is what was done and `sent` what was sent since. -/
structure Gone (id : String) (p : Option Pass) (done : List Occurrence) (sent : List Mutation)
    (s : Stock) : Prop where
  queue : .text id ∉ keysOf s.queue
  letters : .text id ∈ keysOf s.letters → RefusedSince id p done
  turn : ∀ q, s.pass = some q → id ∈ q.ids →
    .began ∉ done ∧ ∃ q₀ ∈ p, q.current :: q.rest <:+ q₀.current :: q₀.rest
  unsent : ∀ q, s.pass = some q → id ∈ q.rest.map (·.id) → ∀ m ∈ sent, m.id ≠ id

theorem RefusedSince.grow {id : String} {p : Option Pass} {past : List Occurrence}
    (refused : RefusedSince id p past) (done : List Occurrence) : RefusedSince id p
    (done ++ past) := by
  obtain ⟨q, inProgress, m, member, same, status, reason, answered⟩ := refused
  exact ⟨q, inProgress, m, member, same, status, reason, List.mem_append_right _ answered⟩

namespace Gone

variable {id : String} {p : Option Pass} {past done : List Occurrence} {sent : List Mutation}
  {s t : Stock}

/-- What happens outside of the pass. -/
theorem keep (gone : Gone id p past sent s) {rows letters : List Row}
    (queue : .text id ∈ keysOf rows → .text id ∈ keysOf s.queue)
    (left : .text id ∈ keysOf letters → .text id ∈ keysOf s.letters) (still : .began ∉ done) :
    Gone id p (done ++ past) (sent ++ []) { s with queue := rows, letters := letters } := by
  constructor
  · exact fun present => gone.queue (queue present)
  · exact fun present => (gone.letters (left present)).grow done
  · intro q waits inPass
    obtain ⟨unbegun, last⟩ := gone.turn q waits inPass
    refine ⟨fun began => ?_, last⟩
    exact (List.mem_append.mp began).elim still unbegun
  · rw [List.append_nil]
    exact gone.unsent

/-- A pass that begins lists the queue, in which the id is not. -/
theorem start (gone : Gone id p past sent s) {queued : List Mutation}
    (listed : (sortRows (rowLE [5]) s.queue).mapM Mutation.ofRow = .ok queued) :
    (∀ m ∈ queued.head?.toList, m.id ≠ id) ∧
      Gone id p (Occurrence.atEnd queued ++ [.began] ++ past) (sent ++ queued.head?.toList)
        (s.continued queued .empty) := by
  have unlisted : id ∉ queued.map (·.id) := fun member =>
    gone.queue ((mem_listed_iff listed).mp member)
  refine ⟨fun m member same => ?_, ?_⟩
  · have first : m ∈ queued := List.mem_of_mem_head? (Option.mem_toList.mp member)
    exact unlisted (same ▸ List.mem_map_of_mem first)
  · constructor
    · rw [Stock.continued_queue]
      exact gone.queue
    · rw [Stock.continued_letters]
      exact fun present => (gone.letters present).grow _
    · intro q waits inPass
      rw [Pass.ids, Stock.continued_pass waits] at inPass
      exact absurd inPass unlisted
    · intro q waits inRest
      have inPass : id ∈ (q.current :: q.rest).map (·.id) := List.mem_cons_of_mem _ inRest
      rw [Stock.continued_pass waits] at inPass
      exact absurd inPass unlisted

/-- What is behind the current mutation of the pass was behind the current one at the removal. -/
theorem lateCall (gone : Gone id p past sent s) {q : Pass} (waits : s.pass = some q)
    {m : Mutation} (member : m ∈ q.rest) (same : m.id = id) : LateCall p past sent m := by
  -- The pass is the one of the removal, which only got shorter since.
  have inRest : id ∈ q.rest.map (·.id) := same ▸ List.mem_map_of_mem member
  obtain ⟨unbegun, q₀, inProgress, last⟩ := gone.turn q waits (List.mem_cons_of_mem _ inRest)
  refine ⟨unbegun, ⟨q₀, inProgress, ?_⟩, same ▸ gone.unsent q waits inRest⟩
  rcases List.suffix_cons_iff.mp last with equal | shorter
  · obtain ⟨-, rest⟩ := List.cons.inj equal
    exact rest ▸ member
  · exact shorter.subset (List.mem_cons_of_mem _ member)

/-- The pass goes on with the next mutation, which is behind the one that was answered. -/
theorem settle (gone : Gone id p past sent s) (distinct : s.Distinct) {policy : RetryPolicy}
    {now : Instant} {q : Pass} {a : Answer} (report : Report) (waits : s.pass = some q)
    (orderly : a ≠ .panicked) :
    Gone id p (Occurrence.atEnd q.rest ++ [.answered q.current a] ++ past)
      (sent ++ q.rest.head?.toList)
      ((s.settled policy q.current now a).continued q.rest report) := by
  constructor
  · rw [Stock.continued_queue]
    exact fun present => gone.queue (Stock.mem_keysOf_settled orderly present).1
  · rw [Stock.continued_letters]
    intro present
    rcases Stock.mem_keysOf_settled_letters present with before | ⟨same, status, reason, refusal⟩
    · exact (gone.letters before).grow _
    · -- The mutation that is refused is one of the pass, so it was one of the pass at the removal.
      obtain ⟨-, q₀, inProgress, last⟩ := gone.turn q waits (same ▸ List.mem_cons_self)
      refine ⟨q₀, inProgress, q.current, last.subset List.mem_cons_self, same, status, reason, ?_⟩
      rw [refusal]
      exact List.mem_append_left _ (List.mem_append_right _ List.mem_cons_self)
  · intro q' waits' inPass
    rw [Pass.ids, Stock.continued_pass waits'] at inPass
    obtain ⟨unbegun, q₀, inProgress, last⟩ := gone.turn q waits (List.mem_cons_of_mem _ inPass)
    refine ⟨fun began => ?_, q₀, inProgress, ?_⟩
    · exact (List.mem_append.mp began).elim (by simp) unbegun
    · rw [Stock.continued_pass waits']
      exact (List.suffix_cons _ _).trans last
  · intro q' waits' inRest m member
    have next : q'.current :: q'.rest = q.rest := Stock.continued_pass waits'
    rcases List.mem_append.mp member with before | latest
    · refine gone.unsent q waits ?_ m before
      rw [← next]
      exact List.mem_cons_of_mem _ inRest
    · -- The latest call was for the new current mutation, which is not listed a second time.
      have first : m = q'.current := by
        rw [← next] at latest
        exact List.mem_singleton.mp latest
      have once : (q.rest.map (·.id)).Nodup := (List.nodup_cons.mp (distinct.pass q waits)).2
      rw [← next] at once
      rintro rfl
      exact (List.nodup_cons.mp once).1 (first ▸ inRest)

/-- All that a move can do about an id that was removed. -/
theorem shift {policy : RetryPolicy} {now : Instant} (gone : Gone id p past sent s)
    (shift : Shift policy now s done t) (distinct : s.Distinct)
    (new : ∀ c, .queued c ∈ done → c.id ≠ id) (once : .requeued id ∉ done) :
    ∃ more, t.deliveries = s.deliveries ++ more ∧
      (∀ m ∈ more, m.id = id → LateCall p (done ++ past) sent m) ∧
      Gone id p (done ++ past) (sent ++ more) t := by
  have alone : s.deliveries = s.deliveries ++ [] := (List.append_nil _).symm
  have silent : ∀ m ∈ ([] : List Mutation), m.id = id → LateCall p (done ++ past) sent m :=
    fun m none => by cases none
  cases shift with
  | quiet talk =>
    refine ⟨[], alone, silent, gone.keep (fun h => h) (fun h => h) fun began => ?_⟩
    cases talk _ began
  | @queue c fresh =>
    refine ⟨[], alone, silent, gone.keep (fun h => ?_) (fun h => h) (by simp)⟩
    refine ((mem_keysOf_added rfl).mp h).resolve_right fun same => ?_
    exact new c List.mem_cons_self (Cell.text.inj same).symm
  | remove present =>
    exact ⟨[], alone, silent,
      gone.keep (fun h => (mem_keysOf_without.mp h).1) (fun h => h) (by simp)⟩
  | clear =>
    exact ⟨[], alone, silent, gone.keep (fun h => by cases h) (fun h => h) (by simp)⟩
  | @bury id' r m found read =>
    refine ⟨[], alone, silent,
      gone.keep (fun h => (mem_keysOf_without.mp h).1) (fun h => ?_) (by simp)⟩
    -- What is buried by hand was in the queue.
    have queued : .text m.id ∈ keysOf s.queue :=
      mem_keysOf.mpr ⟨r, List.mem_of_find?_eq_some found, (Mutation.ofRow_eq_ok_iff.mp read).1.id⟩
    refine ((mem_keysOf_upserted rfl rfl).mp h).resolve_right fun same => ?_
    exact gone.queue (same ▸ queued)
  | @revive id' r l found read fresh =>
    refine ⟨[], alone, silent,
      gone.keep (fun h => ?_) (fun h => (mem_keysOf_without.mp h).1) (by simp)⟩
    -- Only what is requeued gets into the queue again, and this id is not.
    refine ((mem_keysOf_added rfl).mp h).resolve_right fun same => once ?_
    rw [Cell.text.inj same, Mutation.renewed, DeadLetter.id_of_found found read]
    exact List.mem_cons_self
  | discard present =>
    exact ⟨[], alone, silent,
      gone.keep (fun h => h) (fun h => (mem_keysOf_without.mp h).1) (by simp)⟩
  | @start queued idle listed =>
    obtain ⟨others, gone⟩ := gone.start listed
    exact ⟨_, s.continued_deliveries _ _, fun m member same => absurd same (others m member), gone⟩
  | @settle q a report waits orderly =>
    refine ⟨_, ?_, fun m member same => ?_, gone.settle distinct report waits orderly⟩
    · rw [Stock.continued_deliveries, Stock.settled_deliveries]
    · have behind : m ∈ q.rest := List.mem_of_mem_head? (Option.mem_toList.mp member)
      obtain ⟨unbegun, ahead, first⟩ := gone.lateCall waits behind same
      refine ⟨fun began => ?_, ahead, first⟩
      exact (List.mem_append.mp began).elim (by simp) unbegun
  | @panic q waits =>
    refine ⟨[], alone, silent, ?_⟩
    have kept : Gone id p ([.ended, .answered q.current .panicked] ++ past) (sent ++ []) s :=
      gone.keep (fun h => h) (fun h => h) (by simp)
    exact ⟨kept.queue, kept.letters, fun q' none => (by cases none), fun q' none => by cases none⟩

end Gone

/-! ## Runs -/

namespace Session

/-- A change gets an id that is not taken and was not removed before. -/
def Unused (s : Session) (_now : Instant) (move : Move) : Prop :=
  s.NewId move ∧ ∀ c ∈ move.change?, .removed c.id ∉ s.past

instance (s : Session) (now : Instant) (move : Move) : Decidable (s.Unused now move) :=
  inferInstanceAs (Decidable (s.NewId move ∧ ∀ c ∈ move.change?, .removed c.id ∉ s.past))

/-- Each id is in one table at most, and there only once. -/
structure Tidy (s : Session) : Prop where
  sound : s.engine.view.Sound
  distinct : s.engine.view.stock.Distinct
  apart : s.engine.view.stock.Apart

theorem Tidy.after {s : Session} (tidy : s.Tidy) {now : Instant} {move : Move}
    (new : s.NewId move) : (s.after now move).Tidy := by
  have moved := after_moved tidy.sound now new.isFresh
  refine ⟨moved.sound tidy.sound, moved.shift.distinct tidy.distinct, ?_⟩
  refine moved.shift.apart tidy.apart fun c queued inLetters => ?_
  exact new c (Engine.change_of_queued queued) (taken_of_letters inLetters)

theorem Tidy.of_run {s t : Session} (tidy : s.Tidy) (run : Run Unused s t) : t.Tidy := by
  induction run with
  | refl => exact tidy
  | step _ ok ih => exact ih.after ok.1

theorem Tidy.start {e : Engine} (sound : e.view.Sound)
    (once : (idsOf e.view.queueRows ++ idsOf e.view.letterRows).Nodup)
    (idle : e.isProcessing = false) (clock : Instant) : Tidy ⟨e, [], clock⟩ := by
  obtain ⟨queue, -, apart⟩ := List.nodup_append.mp once
  have none : e.view.stock.pass = none := Engine.isProcessing_eq_false_iff.mp idle
  refine ⟨sound, ⟨queue, fun p waits => ?_⟩, fun id inQueue inLetters => ?_⟩
  · rw [none] at waits
    cases waits
  · exact apart id (mem_idsOf.mpr inQueue) id (mem_idsOf.mpr inLetters) rfl

/-- What is taken out of the queue by hand, or with all the others, was in the queue. -/
theorem gone_of_removed {s : Session} (tidy : s.Tidy) {id : String} {now : Instant} {move : Move}
    (byHand : move = .purge id ∨ move = .clear)
    (removed : .removed id ∈ (s.engine.perform now move).2) :
    Gone id (s.after now move).engine.pass [] [] (s.after now move).engine.view.stock := by
  -- Both ways leave the other parts of the stock as they are.
  obtain ⟨rows, stock, present, absent⟩ : ∃ rows,
      (s.after now move).engine.view.stock = { s.engine.view.stock with queue := rows } ∧
        .text id ∈ keysOf s.engine.view.queueRows ∧ .text id ∉ keysOf rows := by
    rcases byHand with rfl | rfl
    · obtain ⟨e', run, view⟩ := Engine.purge_yields tidy.sound id now
      have done : s.engine.perform now (.purge id) =
          (e', if s.engine.view.queueRows.any (·.hasKey id) then [.removed id] else []) := by
        simp only [Engine.perform, run, Engine.tell]
      refine ⟨without id s.engine.view.queueRows, ?_, ?_, fun left =>
        (mem_keysOf_without.mp left).2 rfl⟩
      · simp only [after, done, view, View.stock_withQueue]
      · rw [done] at removed
        refine any_hasKey.mp ?_
        by_contra missing
        simp [missing] at removed
    · obtain ⟨e', run, view⟩ := Engine.clear_yields tidy.sound now
      have done : s.engine.perform now .clear =
          (e', (idsOf s.engine.view.queueRows).map .removed) := by
        simp only [Engine.perform, run, Engine.tell]
        rfl
      refine ⟨[], ?_, ?_, by simp [keysOf]⟩
      · simp only [after, done, view, View.stock_withQueue]
      · rw [done] at removed
        obtain ⟨id', member, same⟩ := List.mem_map.mp removed
        cases same
        exact mem_idsOf.mp member
  have pass : (s.after now move).engine.pass = s.engine.view.stock.pass :=
    congrArg Stock.pass stock
  rw [stock, pass]
  refine ⟨absent, fun inLetters => ?_, fun q waits _ => ?_, fun q waits _ m none => by cases none⟩
  · exact absurd inLetters (tidy.apart id present)
  · exact ⟨List.not_mem_nil, q, waits, List.suffix_refl _⟩

end Session

/-- A run in which an id was taken out of the queue by hand or with all the others, and was not
queued anew. The first session is the one right after the removal, and `done` is what was done from
there to the second one. -/
structure Removal (e : Engine) (id : String) (s : Session) (done : List Occurrence) (t : Session) :
    Prop where
  removed : ∃ clock before now move, s = Session.after before now move ∧
    Session.Run Session.Unused ⟨e, [], clock⟩ before ∧ (move = .purge id ∨ move = .clear) ∧
    .removed id ∈ (before.engine.perform now move).2
  run : Session.Run Session.Unused s t
  told : t.past = done ++ s.past
  once : .requeued id ∉ done

namespace Gone

variable {id : String} {p : Option Pass} {s t : Session}

theorem after {past : List Occurrence} {sent : List Mutation}
    (gone : Gone id p past sent s.engine.view.stock) (tidy : s.Tidy)
    (removed : .removed id ∈ s.past) {now : Instant} {move : Move} (ok : s.Unused now move)
    (once : .requeued id ∉ (s.engine.perform now move).2) :
    ∃ more, (s.after now move).engine.deliveries = s.engine.deliveries ++ more ∧
      (∀ m ∈ more, m.id = id → LateCall p ((s.engine.perform now move).2 ++ past) sent m) ∧
      Gone id p ((s.engine.perform now move).2 ++ past) (sent ++ more)
        (s.after now move).engine.view.stock := by
  have moved := Session.after_moved tidy.sound now ok.1.isFresh
  refine gone.shift moved.shift tidy.distinct (fun c queued same => ?_) once
  exact ok.2 c (Engine.change_of_queued queued) (same ▸ removed)

/-- What a run leaves of an id that was removed before it. -/
theorem of_run (gone : Gone id s.engine.pass [] [] s.engine.view.stock) (tidy : s.Tidy)
    (removed : .removed id ∈ s.past) (run : Session.Run Session.Unused s t) :
    ∃ done, t.past = done ++ s.past ∧ (.requeued id ∉ done →
      ∃ sent, t.engine.deliveries = s.engine.deliveries ++ sent ∧
        Gone id s.engine.pass done sent t.engine.view.stock) := by
  induction run with
  | refl => exact ⟨[], rfl, fun _ => ⟨[], (List.append_nil _).symm, gone⟩⟩
  | @step t run now move ok ih =>
    obtain ⟨done, told, kept⟩ := ih
    refine ⟨(t.engine.perform now move).2 ++ done, ?_, fun once => ?_⟩
    · rw [Session.past_after, told, List.append_assoc]
    · rw [List.mem_append, not_or] at once
      obtain ⟨sent, deliveries, kept⟩ := kept once.2
      have earlier : .removed id ∈ t.past := told ▸ List.mem_append_right _ removed
      obtain ⟨more, grown, -, kept⟩ := kept.after (tidy.of_run run) earlier ok once.1
      refine ⟨sent ++ more, ?_, kept⟩
      rw [grown, deliveries, List.append_assoc]

end Gone

/-- A mutation that was taken out of the queue, whenever that was, never gets back into it. It
becomes a dead letter only where the pass that was in progress at the removal had it before it and
the remote side refused it since. Whatever is done next, a call for it is made by that pass only,
which had it still to try, and only if none was made since the removal. -/
theorem removed_stays_removed {e : Engine} (sound : e.view.Sound)
    (once : (idsOf e.view.queueRows ++ idsOf e.view.letterRows).Nodup)
    (idle : e.isProcessing = false) {id : String} {s t : Session} {done : List Occurrence}
    (removal : Removal e id s done t) :
    .text id ∉ keysOf t.engine.view.queueRows ∧
      (.text id ∈ keysOf t.engine.view.letterRows → RefusedSince id s.engine.pass done) ∧
      ∃ sent, t.engine.deliveries = s.engine.deliveries ++ sent ∧
        ∀ now move, t.Unused now move → .requeued id ∉ (t.engine.perform now move).2 →
          ∃ more, (t.after now move).engine.deliveries = t.engine.deliveries ++ more ∧
            ∀ m ∈ more, m.id = id →
              LateCall s.engine.pass ((t.engine.perform now move).2 ++ done) sent m := by
  obtain ⟨clock, before, now, move, rfl, run, byHand, removed⟩ := removal.removed
  have tidy := (Session.Tidy.start sound once idle clock).of_run run
  have gone := Session.gone_of_removed tidy byHand removed
  have new : before.NewId move := by
    rcases byHand with rfl | rfl <;> exact fun c queues => by cases queues
  have told : .removed id ∈ (before.after now move).past := List.mem_append_left _ removed
  obtain ⟨done', told', kept⟩ := gone.of_run (tidy.after new) told removal.run
  obtain rfl := List.append_cancel_right (removal.told.symm.trans told')
  obtain ⟨sent, deliveries, kept⟩ := kept removal.once
  refine ⟨kept.queue, kept.letters, sent, deliveries, fun now' move' ok once' => ?_⟩
  have later : .removed id ∈ t.past := told' ▸ List.mem_append_right _ told
  obtain ⟨more, grown, late, -⟩ :=
    kept.after ((tidy.after new).of_run removal.run) later ok once'
  exact ⟨more, grown, late⟩

namespace Removal

def sampleFirst : Change := ⟨"m1", .update, .incidents, "i1", .obj [("open", .bool true)]⟩

def sampleSecond : Change := ⟨"m2", .update, .incidents, "i2", .obj [("open", .bool false)]⟩

/-- A pass over two mutations waits for the answer to the first one. -/
def sampleInFlight : Session :=
  (⟨Engine.inMemory .default true, [], .epoch⟩ : Session).through
    [.enqueue sampleFirst, .enqueue sampleSecond, .process]

/-- The second mutation is removed before its turn. -/
def samplePurged : Session := sampleInFlight.after .epoch (.purge "m2")

/-- The first one is taken, and the second one is sent and refused. -/
def sampleRefused : Session :=
  samplePurged.through [.answer .confirmed, .answer (.failed (.permanent (some 422) "no"))]

def sampleDone : List Occurrence :=
  [.ended, .answered (sampleSecond.fresh .epoch) (.failed (.permanent (some 422) "no")),
    .answered (sampleFirst.fresh .epoch) .confirmed]

theorem sample_removed : ∃ clock before now move, samplePurged = Session.after before now move ∧
    Session.Run Session.Unused ⟨Engine.inMemory .default true, [], clock⟩ before ∧
    (move = .purge "m2" ∨ move = .clear) ∧ .removed "m2" ∈ (before.engine.perform now move).2 :=
  ⟨.epoch, sampleInFlight, .epoch, .purge "m2", rfl, .through .refl (by decide +kernel), .inl rfl,
    by decide +kernel⟩

theorem sample_removal :
    Removal (Engine.inMemory .default true) "m2" samplePurged [] samplePurged where
  removed := sample_removed
  run := .refl
  told := rfl
  once := List.not_mem_nil

theorem sample_removal_refused :
    Removal (Engine.inMemory .default true) "m2" samplePurged sampleDone sampleRefused where
  removed := sample_removed
  run := .through .refl (by decide +kernel)
  told := by decide +kernel
  once := by simp [sampleDone]

theorem sample_once : (idsOf (Engine.inMemory .default true).view.queueRows ++
    idsOf (Engine.inMemory .default true).view.letterRows).Nodup := by
  decide +kernel

end Removal

/-- The theorem at a mutation that is removed before its turn in the pass in progress, right after
the removal and after its refusal. -/
theorem purged_in_pass_called_once :
    (∃ more, (Removal.samplePurged.after .epoch (.answer .confirmed)).engine.deliveries =
        Removal.samplePurged.engine.deliveries ++ more ∧
      ∀ m ∈ more, m.id = "m2" → LateCall Removal.samplePurged.engine.pass
        ((Removal.samplePurged.engine.perform .epoch (.answer .confirmed)).2 ++ []) [] m) ∧
    .text "m2" ∉ keysOf Removal.sampleRefused.engine.view.queueRows ∧
    RefusedSince "m2" Removal.samplePurged.engine.pass Removal.sampleDone := by
  have sound := Engine.inMemory_sound .default true
  have idle : (Engine.inMemory .default true).isProcessing = false := by decide +kernel
  have letter : .text "m2" ∈ keysOf Removal.sampleRefused.engine.view.letterRows := by
    decide +kernel
  obtain ⟨-, -, sent, none, calls⟩ :=
    removed_stays_removed sound Removal.sample_once idle Removal.sample_removal
  obtain ⟨absent, refused, -⟩ :=
    removed_stays_removed sound Removal.sample_once idle Removal.sample_removal_refused
  obtain rfl := List.self_eq_append_right.mp none
  exact ⟨calls .epoch (.answer .confirmed) (by decide +kernel) (by decide +kernel), absent,
    refused letter⟩

/-- Removal is not final while a pass is in progress: a mutation that was removed before its turn is
sent, and its refusal makes a dead letter of it. -/
theorem removal_not_final :
    ¬ ∀ (e : Engine), e.view.Sound →
      (idsOf e.view.queueRows ++ idsOf e.view.letterRows).Nodup → e.isProcessing = false →
      ∀ (id : String) (s t : Session) (done : List Occurrence), Removal e id s done t →
        .text id ∉ keysOf t.engine.view.queueRows ∧
          .text id ∉ keysOf t.engine.view.letterRows ∧
          ∀ sent, t.engine.deliveries = s.engine.deliveries ++ sent → ∀ m ∈ sent, m.id ≠ id := by
  intro final
  obtain ⟨-, -, unsent⟩ := final _ (Engine.inMemory_sound .default true) Removal.sample_once
    (by decide +kernel) _ _ _ _ Removal.sample_removal_refused
  have sent : Removal.sampleRefused.engine.deliveries =
      Removal.samplePurged.engine.deliveries ++ [Removal.sampleSecond.fresh .epoch] := by
    decide +kernel
  exact unsent _ sent _ List.mem_cons_self rfl

end Outbox
