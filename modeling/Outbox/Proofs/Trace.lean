import Outbox.Engine.Lifecycle
import Outbox.Proofs.Runs

/-!
# What a trace says of passes

The trace of an engine shows where passes begin and end and what they send. It is read by a small
automaton, which is between passes, in a pass between two calls, or in a call, and which stops at an
effect that is out of place. Most of what an engine does is beside any pass: it leaves the pass in
progress and the stage of the automaton as they are.
-/
namespace Outbox

open Time

/-! ## What a trace says -/

namespace Effect

/-- The end of a pass: a status that says so, or a call that never ends in an orderly way. -/
def endsPass : Effect → Bool
  | .emitted (.statusChanged .synced _) | .emitted (.statusChanged .error _) => true
  | .answered _ .panicked => true
  | _ => false

def isSent : Effect → Bool
  | .sent _ => true
  | _ => false

def isAnswered : Effect → Bool
  | .answered _ _ => true
  | _ => false

end Effect

/-- A pass has begun and has not ended. -/
def PassOpen (trace : List Effect) : Prop :=
  ∃ since now before, trace = since ++ .emitted (.statusChanged .syncing now) :: before ∧
    ∀ x ∈ since, x.endsPass = false

/-- Where a pass is. -/
inductive Stage where
  | idle
  /-- In a pass, with no call in flight. -/
  | between
  | calling (m : Mutation)
  deriving DecidableEq

namespace Stage

/-- The next stage; there is none for an effect that is out of place. What belongs to no pass may
happen at any stage. -/
def next (s : Stage) : Effect → Option Stage
  | .emitted (.statusChanged .syncing _) => if s = .idle then some .between else none
  | .emitted (.statusChanged .synced _) => if s = .between then some .idle else none
  | .emitted (.statusChanged .error _) => if s = .between then some .idle else none
  | .sent m => if s = .between then some (.calling m) else none
  | .answered m a =>
    if s = .calling m then some (if a = .panicked then .idle else .between) else none
  | _ => some s

/-- The calls in flight. -/
def calls : Stage → Nat
  | .calling _ => 1
  | _ => 0

/-- The stage of a pass that waits for an answer. -/
def ofPass : Option Pass → Stage
  | none => .idle
  | some p => .calling p.current

end Stage

/-- The stage after a trace, the latest effect first, in which every effect is in its place. -/
def stageAfter : List Effect → Option Stage
  | [] => some .idle
  | x :: earlier => (stageAfter earlier).bind (·.next x)

theorem stageAfter_cons_eq_some {x : Effect} {earlier : List Effect} {stage : Stage} :
    stageAfter (x :: earlier) = some stage ↔
      ∃ before, stageAfter earlier = some before ∧ before.next x = some stage :=
  Option.bind_eq_some_iff

/-- Whatever came later, the earlier effects were in their places. -/
theorem stageAfter_of_append {later earlier : List Effect} {stage : Stage}
    (accepted : stageAfter (later ++ earlier) = some stage) :
    ∃ before, stageAfter earlier = some before := by
  induction later generalizing stage with
  | nil => exact ⟨stage, accepted⟩
  | cons x later ih =>
    obtain ⟨before, accepted, -⟩ := stageAfter_cons_eq_some.mp accepted
    exact ih accepted

theorem passOpen_cons {x : Effect} {trace : List Effect} :
    PassOpen (x :: trace) ↔
      (∃ now, x = .emitted (.statusChanged .syncing now)) ∨
        x.endsPass = false ∧ PassOpen trace := by
  constructor
  · rintro ⟨_ | ⟨y, since⟩, now, before, same, none⟩
    · exact .inl ⟨now, (List.cons.inj same).1⟩
    · rw [List.cons_append] at same
      obtain ⟨rfl, earlier⟩ := List.cons.inj same
      have rest : ∀ z ∈ since, z.endsPass = false := fun z member =>
        none z (List.mem_cons_of_mem _ member)
      exact .inr ⟨none x List.mem_cons_self, since, now, before, earlier, rest⟩
  · rintro (⟨now, rfl⟩ | ⟨goesOn, since, now, before, rfl, none⟩)
    · exact ⟨[], now, trace, rfl, fun _ member => by cases member⟩
    · refine ⟨x :: since, now, before, rfl, fun y member => ?_⟩
      rcases List.mem_cons.mp member with rfl | later
      · exact goesOn
      · exact none y later

namespace Stage

variable {s t : Stage} {x : Effect}

theorem next_begin {now : Instant} :
    s.next (.emitted (.statusChanged .syncing now)) = some t ↔ s = .idle ∧ t = .between := by
  simp only [next]
  split <;> simp_all [eq_comm]

theorem next_sent {m : Mutation} :
    s.next (.sent m) = some t ↔ s = .between ∧ t = .calling m := by
  simp only [next]
  split <;> simp_all [eq_comm]

theorem next_answered {m : Mutation} {a : Answer} :
    s.next (.answered m a) = some t ↔
      s = .calling m ∧ t = if a = .panicked then .idle else .between := by
  simp only [next]
  split <;> simp_all [eq_comm]

/-- A pass ends only where no call is in flight, or with the call that is. -/
theorem next_of_endsPass (ends : x.endsPass = true) (next : s.next x = some t) :
    s ≠ .idle ∧ t = .idle := by
  cases x with
  | emitted event =>
    cases event with
    | statusChanged status now =>
      cases status with
      | synced | error =>
        simp only [Stage.next, Option.ite_none_right_eq_some, Option.some.injEq] at next
        obtain ⟨rfl, rfl⟩ := next
        exact ⟨by simp, rfl⟩
      | _ => cases ends
    | _ => cases ends
  | answered m a =>
    obtain ⟨rfl, rfl⟩ := next_answered.mp next
    cases a with
    | panicked => exact ⟨by simp, rfl⟩
    | _ => cases ends
  | _ => cases ends

/-- Nothing but a beginning and an end takes a stage into a pass or out of it. -/
theorem next_of_inner (inner : x.endsPass = false)
    (other : ∀ now, x ≠ .emitted (.statusChanged .syncing now)) (next : s.next x = some t) :
    s = .idle ↔ t = .idle := by
  cases x with
  | emitted event =>
    cases event with
    | statusChanged status now =>
      cases status with
      | syncing => exact absurd rfl (other now)
      | synced | error => cases inner
      | online | offline =>
        cases next
        exact .rfl
    | _ =>
      cases next
      exact .rfl
  | sent m =>
    obtain ⟨rfl, rfl⟩ := next_sent.mp next
    simp
  | answered m a =>
    obtain ⟨rfl, rfl⟩ := next_answered.mp next
    have orderly : a ≠ .panicked := by
      rintro rfl
      cases inner
    simp [orderly]
  | _ =>
    cases next
    exact .rfl

/-- A call is in flight from where it is sent to its answer. -/
theorem calls_next (next : s.next x = some t) :
    t.calls + [x].countP Effect.isAnswered = s.calls + [x].countP Effect.isSent := by
  cases x with
  | emitted event =>
    cases event with
    | statusChanged status now =>
      cases status with
      | syncing =>
        obtain ⟨rfl, rfl⟩ := next_begin.mp next
        rfl
      | synced | error =>
        simp only [Stage.next, Option.ite_none_right_eq_some, Option.some.injEq] at next
        obtain ⟨rfl, rfl⟩ := next
        rfl
      | online | offline =>
        cases next
        rfl
    | _ =>
      cases next
      rfl
  | sent m =>
    obtain ⟨rfl, rfl⟩ := next_sent.mp next
    rfl
  | answered m a =>
    obtain ⟨rfl, rfl⟩ := next_answered.mp next
    cases a <;> rfl
  | _ =>
    cases next
    rfl

end Stage

/-- The automaton is in a pass exactly where one is open. -/
theorem passOpen_iff {trace : List Effect} {stage : Stage}
    (accepted : stageAfter trace = some stage) : PassOpen trace ↔ stage ≠ .idle := by
  induction trace generalizing stage with
  | nil =>
    cases accepted
    refine ⟨?_, fun h => absurd rfl h⟩
    rintro ⟨since, now, before, same, -⟩
    simp at same
  | cons x earlier ih =>
    obtain ⟨before, accepted, next⟩ := stageAfter_cons_eq_some.mp accepted
    rw [passOpen_cons, ih accepted]
    -- A beginning opens a pass, an end closes one, and anything else leaves it open or closed.
    by_cases begins : ∃ now, x = .emitted (.statusChanged .syncing now)
    · obtain ⟨now, rfl⟩ := begins
      obtain ⟨rfl, rfl⟩ := Stage.next_begin.mp next
      simp
    · cases ends : x.endsPass with
      | true =>
        obtain ⟨-, rfl⟩ := Stage.next_of_endsPass ends next
        simp [begins]
      | false =>
        have same := Stage.next_of_inner ends (not_exists.mp begins) next
        simp [begins, same]

/-- All calls but the one in flight were answered. -/
theorem countP_isSent {trace : List Effect} {stage : Stage}
    (accepted : stageAfter trace = some stage) :
    trace.countP Effect.isSent = trace.countP Effect.isAnswered + stage.calls := by
  induction trace generalizing stage with
  | nil =>
    cases accepted
    rfl
  | cons x earlier ih =>
    obtain ⟨before, accepted, next⟩ := stageAfter_cons_eq_some.mp accepted
    have step := Stage.calls_next next
    have previous := ih accepted
    rw [← List.singleton_append, List.countP_append, List.countP_append]
    omega

/-! ## What belongs to no pass -/

namespace Engine

/-- Between the two engines nothing happened that a pass is made of. -/
structure Beside (e e' : Engine) : Prop where
  pass : e'.pass = e.pass
  stage : stageAfter e'.trace = stageAfter e.trace

namespace Beside

theorem refl (e : Engine) : Beside e e := ⟨rfl, rfl⟩

theorem trans {e e' e'' : Engine} (first : Beside e e') (second : Beside e' e'') : Beside e e'' :=
  ⟨second.pass.trans first.pass, second.stage.trans first.stage⟩

theorem of_run {α : Type} {e e' : Engine} {r : Engine × α} {x : α} (beside : Beside e r.1)
    (run : r = (e', x)) : Beside e e' := by
  rw [run] at beside
  exact beside

/-- Parts that have nothing to do with passes may have been changed before. -/
theorem after {e e₀ e' : Engine} (beside : Beside e₀ e') (pass : e₀.pass = e.pass)
    (trace : e₀.trace = e.trace) : Beside e e' :=
  ⟨beside.pass.trans pass, beside.stage.trans (congrArg stageAfter trace)⟩

theorem foldl {α : Type} {f : Engine → α → Engine} (step : ∀ e a, Beside e (f e a)) (e : Engine)
    (xs : List α) : Beside e (xs.foldl f e) := by
  induction xs generalizing e with
  | nil => exact refl e
  | cons x xs ih => exact (step e x).trans (ih (f e x))

end Beside

variable (e : Engine)

/-- What may happen at any stage leaves the stage. -/
theorem beside_record {x : Effect} (anywhere : ∀ s : Stage, s.next x = some s) :
    Beside e (e.record x) := by
  refine ⟨rfl, ?_⟩
  -- A trace that is out of order stays so, and any other one stays at its stage.
  change (stageAfter e.trace).bind (·.next x) = stageAfter e.trace
  cases stageAfter e.trace with
  | none => rfl
  | some s => exact anywhere s

theorem beside_log (line : LogLine) : Beside e (e.log line) := e.beside_record fun _ => rfl

theorem beside_logAll (lines : List LogLine) : Beside e (e.logAll lines) :=
  .foldl (fun e line => e.beside_log line) e lines

theorem beside_emit {event : Event}
    (anywhere : ∀ s : Stage, s.next (.emitted event) = some s) : Beside e (e.emit event) :=
  (beside_record { e with notifier := e.notifier.emit event } anywhere).after rfl rfl

theorem beside_wake (t : Task) : Beside e (e.wake t) := by
  unfold wake
  split
  · exact .refl e
  · exact ⟨rfl, rfl⟩

/-- Whoever asks for a pass does not make it yet. -/
theorem beside_drainRequested : Beside e (e.record .drainRequested) := e.beside_record fun _ => rfl

theorem beside_requestDrain : Beside e e.requestDrain :=
  (beside_drainRequested { e with tasks := e.tasks ++ [Task.drain] }).after rfl rfl

theorem beside_tellRequester : Beside e e.tellRequester := by
  unfold tellRequester
  split
  · exact .refl e
  · exact .refl e
  · exact e.beside_requestDrain
  next requests _ =>
    exact (beside_drainRequested { e with requester := .counter (requests + 1) }).after rfl rfl

theorem beside_afterEnqueue (pending : Nat) : Beside e (e.afterEnqueue pending) := by
  have told : Beside e (e.emit (.queueChanged pending)) := e.beside_emit fun _ => rfl
  unfold afterEnqueue
  simp only
  split
  · exact told.trans (beside_tellRequester _)
  · exact told

/-- Callbacks and log lines come before the event of a status that is published. -/
theorem publish_stage (status : Status) (now : Instant) :
    (e.publish status now).pass = e.pass ∧
      stageAfter (e.publish status now).trace =
        (stageAfter e.trace).bind (·.next (.emitted (.statusChanged status now))) := by
  let p := e.notifier.publish status now
  have tell (e : Engine) (call : Call) : Beside e (e.record (.called call)) :=
    e.beside_record fun _ => rfl
  have called : Beside e
      (p.calls.foldl (fun e call => e.record (.called call)) { e with notifier := p.notifier }) :=
    (Beside.foldl tell { e with notifier := p.notifier } p.calls).after rfl rfl
  have before := called.trans (beside_logAll _ p.log)
  refine ⟨before.pass, ?_⟩
  exact congrArg (Option.bind · fun s => s.next (.emitted (.statusChanged status now))) before.stage

theorem beside_publish {status : Status} (now : Instant)
    (anywhere : ∀ s : Stage, s.next (.emitted (.statusChanged status now)) = some s) :
    Beside e (e.publish status now) := by
  obtain ⟨pass, stage⟩ := e.publish_stage status now
  refine ⟨pass, stage.trans ?_⟩
  cases stageAfter e.trace with
  | none => rfl
  | some s => exact anywhere s

/-! ### The store -/

/-- Whatever a statement does, or fails to do, it is beside any pass. -/
theorem beside_access {α : Type} (now : Instant) (f : Database → Database × Except Error α) :
    Beside e (e.access now f).1 := by
  unfold access
  cases opened : e.storage.ensureOpen now with
  | mk storage rest =>
    obtain ⟨lines, result⟩ := rest
    have logged := beside_logAll { e with storage := storage } lines
    cases result with
    | error fault => exact ⟨logged.pass, logged.stage⟩
    | ok _ => exact ⟨logged.pass, logged.stage⟩

theorem beside_query {α : Type} (now : Instant) (f : Database → Except Error α) :
    Beside e (e.query now f).1 := e.beside_access now _

theorem beside_change {α : Type} (now : Instant)
    (f : Database → Except Error (Database × α)) : Beside e (e.change now f).1 :=
  e.beside_access now _

/-! ### The queue -/

theorem beside_enqueue (m : Mutation) (now : Instant) : Beside e (e.enqueue m now).1 := by
  have stored := e.beside_access now fun db => db.enqueue m
  unfold enqueue
  split
  next run => exact stored.of_run run
  next run => exact (stored.of_run run).trans ((beside_log _ _).trans (beside_afterEnqueue _ _))

theorem beside_mutate (m : Mutation) (now : Instant) : Beside e (e.mutate m now).1 := by
  have stored := e.beside_access now fun db => db.mutate m now
  unfold mutate
  split
  next run => exact stored.of_run run
  next run => exact (stored.of_run run).trans ((beside_log _ _).trans (beside_afterEnqueue _ _))

theorem beside_dequeue (id : String) (now : Instant) : Beside e (e.dequeue id now).1 := by
  have stored := e.beside_access now fun db => db.dequeue id
  unfold dequeue
  split
  next run => exact stored.of_run run
  next removed pending run =>
    rw [run] at stored
    cases removed with
    | true => exact stored.trans (beside_emit _ fun _ => rfl)
    | false => exact stored

theorem beside_purge (id : String) (now : Instant) : Beside e (e.purge id now).1 := by
  have removed := e.beside_dequeue id now
  unfold purge
  split
  next run => exact (removed.of_run run).trans (beside_log _ _)
  · exact removed

theorem beside_clear (now : Instant) : Beside e (e.clear now).1 := by
  have stored := e.beside_change now Database.clearMutations
  unfold clear
  split
  next run => exact stored.of_run run
  next run => exact (stored.of_run run).trans ((beside_log _ _).trans (beside_emit _ fun _ => rfl))

theorem beside_update (m : Mutation) (now : Instant) : Beside e (e.update m now).1 :=
  e.beside_change now _

theorem beside_moveToDeadLetters (m : Mutation) (now : Instant) :
    Beside e (e.moveToDeadLetters m now).1 := by
  have stored := e.beside_access now fun db => db.bury ⟨m, now⟩
  unfold moveToDeadLetters
  simp only
  split
  next run => exact stored.of_run run
  next run => exact (stored.of_run run).trans ((beside_log _ _).trans (beside_emit _ fun _ => rfl))

theorem beside_deadLetter (id : String) (now : Instant) : Beside e (e.deadLetter id now).1 := by
  have found := e.beside_query now fun db => db.mutation? id
  unfold deadLetter
  split
  next run => exact found.of_run run
  next run => exact found.of_run run
  next run => exact (found.of_run run).trans (beside_moveToDeadLetters _ _ _)

theorem beside_requeue (id : String) (now : Instant) : Beside e (e.requeue id now).1 := by
  have stored := e.beside_access now fun db => db.revive id now
  unfold requeue
  split
  next run => exact stored.of_run run
  next run => exact stored.of_run run
  next run => exact (stored.of_run run).trans ((beside_log _ _).trans (beside_afterEnqueue _ _))

theorem beside_purgeDeadLetter (id : String) (now : Instant) :
    Beside e (e.purgeDeadLetter id now).1 := by
  have stored := e.beside_change now fun db => db.deleteDeadLetter id
  unfold purgeDeadLetter
  split
  next run => exact (stored.of_run run).trans (beside_log _ _)
  · exact stored

/-! ### The network and the background -/

theorem beside_setOnline (online : Bool) : Beside e (e.setOnline online).1 := by
  unfold setOnline
  simp only
  have logged := beside_logAll { e with monitor := (e.monitor.setOnline online).1 }
    (e.monitor.setOnline online).2.2
  split
  · exact Beside.trans ⟨logged.pass, logged.stage⟩ (beside_wake _ _)
  · exact ⟨logged.pass, logged.stage⟩

theorem beside_push (status : NetworkStatus) : Beside e (e.push status) := by
  unfold push
  simp only
  split
  · exact (beside_wake _ _).after rfl rfl
  · exact ⟨rfl, rfl⟩

theorem beside_announce (now : Instant) (change : Received Bool) :
    Beside e (announce now e change) := by
  rcases change with (_ | _) | missed
  · exact e.beside_publish now fun _ => rfl
  · exact (e.beside_publish now fun _ => rfl).trans (beside_requestDrain _)
  · exact e.beside_log _

theorem beside_runConnectivity (now : Instant) : Beside e (e.runConnectivity now) := by
  unfold runConnectivity
  split
  · exact .refl e
  · exact (Beside.foldl (fun e change => e.beside_announce now change) _ _).after rfl rfl

theorem beside_carryOver (report : Received NetworkStatus) : Beside e (e.carryOver report) := by
  cases report with
  | message status => exact e.beside_setOnline _
  | lagged missed => exact e.beside_log _

theorem beside_runWatch : Beside e e.runWatch := by
  unfold runWatch
  split
  · exact (Beside.foldl (fun e report => e.beside_carryOver report) _ _).after rfl rfl
  · exact .refl e

end Engine

end Outbox
