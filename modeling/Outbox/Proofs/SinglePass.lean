import Outbox.Proofs.Launch
import Outbox.Proofs.Trace

/-!
# One pass at a time

Any number of passes may be asked for, by callers and in the background, and a pass is suspended at
each of its calls. The guard admits one of them: the trace of an engine is a sequence of passes that
do not overlap, each with its calls one after another, whatever the store does and however the calls
end. The invariant says that the trace is in order and ends where the engine says that it is.
-/
namespace Outbox

open Time

/-! ## The guard -/

namespace Engine

/-- The trace is in order, and it is where the engine is. -/
def InStep (e : Engine) : Prop := stageAfter e.trace = some (.ofPass e.pass)

theorem Beside.inStep {e e' : Engine} (beside : Beside e e') (h : e.InStep) : e'.InStep := by
  rw [InStep, beside.stage, beside.pass]
  exact h

/-- The statistics can be logged or not, and that is beside the pass in any case. -/
theorem beside_logStats (e : Engine) (now : Instant) : Beside e (e.logStats now) := by
  have looked := e.beside_query now Database.queueStats
  unfold logStats
  split
  next run => exact (looked.of_run run).trans (beside_log _ _)
  next run => exact (looked.of_run run).trans (beside_log _ _)

variable {e : Engine}

theorem finishPass_inStep (between : stageAfter e.trace = some .between) (report : Report)
    (now : Instant) : (e.finishPass report now).1.InStep := by
  have logged := e.beside_log (.info ("✅ 同步队列处理完成: " ++ report.summary))
  obtain ⟨-, stage⟩ := publish_stage (e.log (.info ("✅ 同步队列处理完成: " ++ report.summary)))
    .synced now
  rw [logged.stage, between] at stage
  unfold finishPass InStep
  simp only
  split
  · exact (beside_logStats _ now).stage.trans stage
  · exact stage

theorem continuePass_inStep (between : stageAfter e.trace = some .between)
    (rest : List Mutation) (report : Report) (now : Instant) :
    (e.continuePass rest report now).1.InStep := by
  cases rest with
  | nil => exact finishPass_inStep between report now
  | cons m rest =>
    have sent : stageAfter (e.send m).trace = some (.calling m) := by
      unfold send
      simp only
      split
      · have logged := (e.beside_log (.info ("🔍 投递同步项: id=" ++ m.id ++ ", " ++ m.summary
          ++ ", retry_count=" ++ toString m.retries ++ ", data=" ++ m.payload.text))).stage
        exact stageAfter_cons_eq_some.mpr ⟨_, logged.trans between, rfl⟩
      · exact stageAfter_cons_eq_some.mpr ⟨_, between, rfl⟩
    exact sent

theorem startPass_inStep (h : e.InStep) (now : Instant) : (e.startPass now).1.InStep := by
  unfold startPass
  split
  · exact h
  · split
    · exact h
    next free =>
      have none : e.pass = none := by simpa [isProcessing] using free
      have idle : stageAfter e.trace = some .idle := by
        rw [InStep, none] at h
        exact h
      have logged := e.beside_log (.info "🔄 开始处理同步队列")
      obtain ⟨-, begun⟩ := publish_stage (e.log (.info "🔄 开始处理同步队列")) .syncing now
      rw [logged.stage, idle] at begun
      simp only
      have listed := beside_query ((e.log (.info "🔄 开始处理同步队列")).publish .syncing now) now
        Database.mutations
      split
      next run =>
        rw [run] at listed
        exact continuePass_inStep (listed.stage.trans begun) _ _ now
      next e' fault run =>
        -- A queue that cannot be listed ends the pass before any call.
        rw [run] at listed
        have failed := (beside_log e' (.error ("❌ 同步队列处理失败: " ++ fault.message)))
        obtain ⟨pass, stage⟩ :=
          publish_stage (e'.log (.error ("❌ 同步队列处理失败: " ++ fault.message))) .error now
        have kept : ((e.log (.info "🔄 开始处理同步队列")).publish .syncing now).pass = e.pass :=
          (publish_stage _ _ _).1
        rw [failed.stage, listed.stage, begun] at stage
        rw [InStep, stage, pass, failed.pass, listed.pass, kept, none]
        rfl

theorem beside_contain (m : Mutation) (report : Report) {r : Engine × Except Error Report}
    (beside : Beside e r.1) : Beside e (contain m report r).1 := by
  rcases r with ⟨e', fault | report'⟩
  · exact beside.trans (beside_log _ _)
  · exact beside

theorem beside_confirm (e : Engine) (m : Mutation) (report : Report) (now : Instant) :
    Beside e (e.confirm m report now).1 := by
  have removed := e.beside_dequeue m.id now
  unfold confirm
  split
  next run => exact removed.of_run run
  next run => exact (removed.of_run run).trans ((beside_log _ _).trans (beside_emit _ fun _ => rfl))

theorem beside_retryLater (e : Engine) (m : Mutation) (error : String) (report : Report)
    (now : Instant) : Beside e (e.retryLater m error report now).1 := by
  have written := e.beside_update m now
  unfold retryLater
  split
  next run => exact written.of_run run
  next run => exact (written.of_run run).trans ((beside_log _ _).trans (beside_emit _ fun _ => rfl))

theorem beside_exhaust (e : Engine) (m : Mutation) (error : String) (report : Report)
    (now : Instant) : Beside e (e.exhaust m error report now).1 := by
  have written := e.beside_update { m with state := .exhausted } now
  unfold exhaust
  simp only
  split
  next run => exact written.of_run run
  next run =>
    rw [run] at written
    refine written.trans (Beside.trans ?_ (beside_emit _ fun _ => rfl))
    split
    · exact .refl _
    · exact (beside_log _ _).trans (beside_emit _ fun _ => rfl)

theorem beside_giveUp (e : Engine) (m : Mutation) (failure : Failure) (report : Report)
    (now : Instant) : Beside e (e.giveUp m failure report now).1 := by
  have moved := e.beside_moveToDeadLetters m now
  unfold giveUp
  split
  next run => exact moved.of_run run
  next run => exact (moved.of_run run).trans ((beside_log _ _).trans (beside_emit _ fun _ => rfl))

theorem beside_settleFailure (e : Engine) (m : Mutation) (failure : Failure) (report : Report)
    (now : Instant) : Beside e (e.settleFailure m failure report now).1 := by
  unfold settleFailure
  simp only
  split
  · exact beside_retryLater _ _ _ _ _
  · exact beside_exhaust _ _ _ _ _
  · exact beside_giveUp _ _ _ _ _

theorem answer_inStep (h : e.InStep) (a : Answer) (now : Instant) : (e.answer a now).1.InStep := by
  unfold answer
  split
  · exact h
  next p waits =>
    have calling : stageAfter e.trace = some (.calling p.current) := by
      rw [InStep, waits] at h
      exact h
    simp only
    split
    · -- The guard is released on the way out, and no status is published.
      exact stageAfter_cons_eq_some.mpr ⟨_, calling, Stage.next_answered.mpr ⟨rfl, rfl⟩⟩
    · have between : stageAfter (e.record (.answered p.current .confirmed)).trace = some .between :=
        stageAfter_cons_eq_some.mpr ⟨_, calling, Stage.next_answered.mpr ⟨rfl, rfl⟩⟩
      have settled := beside_contain p.current p.report
        (beside_confirm (e.record (.answered p.current .confirmed)) p.current p.report now)
      exact continuePass_inStep (settled.stage.trans between) _ _ now
    next failure =>
      have between :
          stageAfter (e.record (.answered p.current (.failed failure))).trace = some .between :=
        stageAfter_cons_eq_some.mpr ⟨_, calling, Stage.next_answered.mpr ⟨rfl, rfl⟩⟩
      have settled := beside_contain p.current p.report (beside_settleFailure
        (e.record (.answered p.current (.failed failure))) p.current failure p.report now)
      exact continuePass_inStep (settled.stage.trans between) _ _ now

theorem tell_fst {α : Type} (past : α → List Occurrence) (r : Engine × Except Error α) :
    (tell past r).1 = r.1 := by
  rcases r with ⟨e', fault | x⟩ <;> rfl

theorem runTask_inStep (h : e.InStep) (now : Instant) (t : Task) : (e.runTask now t).1.InStep := by
  cases t with
  | drain =>
    have started := startPass_inStep h now
    simp only [runTask]
    split
    next run =>
      rw [run] at started
      exact (beside_log _ _).inStep started
    next run =>
      rw [run] at started
      exact started
    next run =>
      rw [run] at started
      exact started
  | connectivity => exact (e.beside_runConnectivity now).inStep h
  | watch => exact e.beside_runWatch.inStep h

/-- No move gets the trace out of order, whatever state the store is in. -/
theorem perform_inStep (h : e.InStep) (now : Instant) (move : Move) :
    (e.perform now move).1.InStep := by
  cases move with
  | enqueue c =>
    rw [perform, tell_fst]
    exact (e.beside_enqueue _ now).inStep h
  | mutate c =>
    rw [perform, tell_fst]
    exact (e.beside_mutate _ now).inStep h
  | purge id =>
    rw [perform, tell_fst]
    exact (e.beside_purge id now).inStep h
  | clear =>
    rw [perform, tell_fst]
    exact (e.beside_clear now).inStep h
  | deadLetter id =>
    rw [perform, tell_fst]
    exact (e.beside_deadLetter id now).inStep h
  | requeue id =>
    rw [perform, tell_fst]
    exact (e.beside_requeue id now).inStep h
  | purgeDeadLetter id =>
    rw [perform, tell_fst]
    exact (e.beside_purgeDeadLetter id now).inStep h
  | setOnline online => exact (e.beside_setOnline online).inStep h
  | push status => exact (e.beside_push status).inStep h
  | process => exact startPass_inStep h now
  | answer a =>
    simp only [perform]
    split
    · exact h
    · exact answer_inStep h a now
  | run position =>
    simp only [perform]
    split
    · exact h
    next t _ =>
      -- The task leaves the ready ones first.
      have left : InStep { e with tasks := e.tasks.eraseIdx position } := h
      exact runTask_inStep left now t

/-! ### Starting -/

theorem beside_attach {e' : Engine} {listener : Option Listener}
    (attached : e.attach listener = .ok e') : Beside e e' := by
  cases listener with
  | none =>
    cases attached
    exact .refl e
  | some listener =>
    obtain ⟨⟨l, position⟩, -, done⟩ := Except.bind_eq_ok attached
    cases done
    have turned := e.beside_setOnline listener.status.isReachable
    exact turned.trans ((beside_wake _ _).after rfl rfl)

theorem beside_announceStart (e : Engine) (now : Instant) : Beside e (e.announceStart now) := by
  unfold announceStart
  simp only
  refine Beside.trans ?_ (beside_log _ _)
  split
  · exact (e.beside_publish now fun _ => rfl).trans (beside_requestDrain _)
  · exact e.beside_publish now fun _ => rfl

/-- An engine that was started has made no pass yet. -/
theorem start_inStep {c : Config} {disk : Disk} {listener : Option Listener}
    {history : List LogLine} {revision : String} {now : Instant}
    (started : start c disk listener history revision now = .ready e) : e.InStep := by
  unfold start at started
  split at started
  · cases started
  · simp only at started
    split at started
    · cases started
    · cases started
    next notifier _ _ =>
      split at started
      · cases started
      next e₁ attached =>
        cases started
        refine ((beside_attach attached).trans (beside_announceStart e₁ now)).inStep ?_
        refine Beside.inStep ((beside_logAll _ _).trans ((beside_wake _ _).after rfl rfl)) ?_
        exact rfl

end Engine

/-! ## Engines at work -/

/-- The engines that come about, from an assembled or a started one, by moves and by what others do:
the store may be in any state at any time. -/
inductive Reached : Engine → Prop
  | assemble (policy : RetryPolicy) (debug : Bool) (storage : Storage)
    (notifier : UnownedNotifier) (online : Bool) : Reached
    (.assemble policy debug storage notifier online)
  | start {c : Config} {disk : Disk} {listener : Option Listener} {history : List LogLine}
    {revision : String} {now : Instant} {e : Engine}
    (ready : Engine.start c disk listener history revision now = .ready e) : Reached e
  | bind {e : Engine} (before : Reached e) (requester : Requester) : Reached (e.bind requester).1
  | move {e : Engine} (before : Reached e) (now : Instant) (move : Move) :
    Reached (e.perform now move).1
  /-- The store breaks, is mended, or is changed by someone else. -/
  | store {e : Engine} (before : Reached e) (storage : Storage) :
    Reached { e with storage := storage }
  | subscribe {e : Engine} (before : Reached e) (callback : UnownedCallback) :
    Reached (e.subscribe callback).1
  | unsubscribe {e : Engine} (before : Reached e) (id : Nat) : Reached (e.unsubscribe id)
  | shutdown {e : Engine} (before : Reached e) : Reached e.shutdown

namespace Reached

variable {e : Engine}

theorem inStep (reached : Reached e) : e.InStep := by
  induction reached with
  | assemble => exact rfl
  | start ready => exact Engine.start_inStep ready
  | @bind e _ requester ih =>
    unfold Engine.bind
    split
    · exact ih
    · exact ih
  | move _ now move ih => exact Engine.perform_inStep ih now move
  | store _ storage ih => exact ih
  | subscribe _ callback ih => exact ih
  | @unsubscribe e _ id ih =>
    unfold Engine.unsubscribe
    split
    · exact ((Engine.beside_log _ _).after rfl rfl).inStep ih
    · exact ih
  | @shutdown e _ ih =>
    unfold Engine.shutdown
    simp only
    split
    · exact ih
    · exact ((Engine.beside_log _ _).after rfl rfl).inStep ih

theorem through (reached : Reached e) (moves : List Move) :
    Reached (moves.foldl (fun e move => (e.perform .epoch move).1) e) := by
  induction moves generalizing e with
  | nil => exact reached
  | cons move moves ih => exact ih (reached.move .epoch move)

end Reached

namespace Engine

variable {e : Engine}

/-- A pass that is begun is not skipped. -/
theorem continuePass_not_skipped (e : Engine) (rest : List Mutation) (report : Report)
    (now : Instant) (reason : Skip) :
    (e.continuePass rest report now).2 ≠ some (.skipped reason) := by
  cases rest with
  | nil => simp [continuePass, finishPass]
  | cons m rest => simp [continuePass]

/-- The two reasons for which a pass is not made, and there are no others. -/
theorem startPass_skipped_iff (e : Engine) (now : Instant) (reason : Skip) :
    (e.startPass now).2 = some (.skipped reason) ↔
      match reason with
      | .offline => e.isOnline = false
      | .alreadyRunning => e.isOnline = true ∧ e.isProcessing = true := by
  cases online : e.isOnline with
  | false =>
    rw [startPass_of_offline online now]
    cases reason <;> simp
  | true =>
    cases waits : e.pass with
    | some p =>
      rw [startPass_of_running online waits now]
      cases reason <;> simp [isProcessing, waits]
    | none =>
      have made : (e.startPass now).2 ≠ some (.skipped reason) := by
        simp only [startPass, online, isProcessing, waits, Bool.not_true, Option.isSome_none,
          Bool.false_eq_true, if_false]
        split
        · exact continuePass_not_skipped _ _ _ _ _
        · simp
      cases reason <;> simp [isProcessing, waits, made]

/-- A pass that is skipped leaves the engine as it was: the store, the trace and all the rest. -/
theorem startPass_of_skipped {now : Instant} {reason : Skip}
    (skipped : (e.startPass now).2 = some (.skipped reason)) : (e.startPass now).1 = e := by
  have why := (e.startPass_skipped_iff now reason).mp skipped
  cases reason with
  | offline => rw [startPass_of_offline why now]
  | alreadyRunning =>
    obtain ⟨p, waits⟩ := Option.isSome_iff_exists.mp why.2
    rw [startPass_of_running why.1 waits now]

theorem runTask_of_skipped {now : Instant} {reason : Skip}
    (skipped : (e.startPass now).2 = some (.skipped reason)) : (e.runTask now .drain).1 = e := by
  have same := startPass_of_skipped skipped
  cases run : e.startPass now with
  | mk e' outcome =>
    rw [run] at skipped same
    simp only at skipped same
    subst skipped same
    cases reason <;> simp only [runTask, run]

end Engine

/-- At any time at most one pass is open and at most one call is in flight: a pass begins only where
none is open, and a mutation is sent only in an open pass whose other calls are answered. The engine
says that it is processing exactly while a pass is open, so a call is skipped for that reason only
then; and a call that is skipped changes nothing at all. -/
theorem one_pass_at_a_time {e : Engine} (reached : Reached e) :
    (∀ later now earlier, e.trace = later ++ .emitted (.statusChanged .syncing now) :: earlier →
      ¬ PassOpen earlier) ∧
    (∀ later m earlier, e.trace = later ++ .sent m :: earlier →
      PassOpen earlier ∧ earlier.countP Effect.isSent = earlier.countP Effect.isAnswered) ∧
    e.trace.countP Effect.isSent =
      e.trace.countP Effect.isAnswered + e.inFlight.toList.length ∧
    (e.isProcessing = true ↔ PassOpen e.trace) ∧
    ∀ now,
      ((e.startPass now).2 = some (.skipped .offline) ↔ e.isOnline = false) ∧
      ((e.startPass now).2 = some (.skipped .alreadyRunning) ↔
        e.isOnline = true ∧ PassOpen e.trace) ∧
      ∀ reason, (e.startPass now).2 = some (.skipped reason) →
        (e.startPass now).1 = e ∧ (e.runTask now .drain).1 = e := by
  -- The trace is accepted up to each of its effects, and the stage there says what may come next.
  have accepted := reached.inStep
  have processing : e.isProcessing = true ↔ PassOpen e.trace := by
    rw [passOpen_iff accepted, Engine.isProcessing]
    cases e.pass <;> simp [Stage.ofPass]
  refine ⟨?_, ?_, ?_, processing, fun now => ⟨e.startPass_skipped_iff now .offline, ?_, ?_⟩⟩
  · intro later now earlier same
    rw [Engine.InStep, same] at accepted
    obtain ⟨_, here⟩ := stageAfter_of_append accepted
    obtain ⟨before, accepted, next⟩ := stageAfter_cons_eq_some.mp here
    obtain ⟨rfl, -⟩ := Stage.next_begin.mp next
    simp [passOpen_iff accepted]
  · intro later m earlier same
    rw [Engine.InStep, same] at accepted
    obtain ⟨_, here⟩ := stageAfter_of_append accepted
    obtain ⟨before, accepted, next⟩ := stageAfter_cons_eq_some.mp here
    obtain ⟨rfl, -⟩ := Stage.next_sent.mp next
    exact ⟨(passOpen_iff accepted).mpr (by simp), countP_isSent accepted⟩
  · rw [countP_isSent accepted, Engine.inFlight]
    cases e.pass <;> rfl
  · rw [← processing]
    exact e.startPass_skipped_iff now .alreadyRunning
  · exact fun reason skipped =>
      ⟨Engine.startPass_of_skipped skipped, Engine.runTask_of_skipped skipped⟩

namespace Reached

def sampleChange (id : String) : Change := ⟨id, .update, .incidents, "i1", .obj []⟩

/-- An engine that asks itself for a pass whenever something is queued. -/
def sampleEngine : Engine := ((Engine.inMemory .default true).bind .processor).1

/-- A pass in the background waits for an answer, another one was declined, and more is queued. -/
def sampleBusy : Engine :=
  [.enqueue (sampleChange "m1"), .run 0, .enqueue (sampleChange "m2"), .run 0,
    .enqueue (sampleChange "m3")].foldl (fun e move => (e.perform .epoch move).1) sampleEngine

/-- The call ends in disorder, and all tables are gone when the next pass begins. -/
def sampleBroken : Engine :=
  let e := (sampleBusy.perform .epoch (.answer .panicked)).1
  let e : Engine := { e with storage := ⟨⟨[]⟩, .memory, some (.memory .empty)⟩ }
  (e.perform .epoch .process).1

theorem sample_reached : Reached sampleEngine := .bind (.assemble _ _ _ _ _) _

end Reached

/-- The theorem at an engine whose pass waits for an answer while two more are asked for, and at the
same one after the call ended in disorder and a pass could not list the queue. -/
theorem busy_engine_skips_unchanged :
    PassOpen Reached.sampleBusy.trace ∧
      (Reached.sampleBusy.startPass .epoch).1 = Reached.sampleBusy ∧
      (Reached.sampleBusy.runTask .epoch .drain).1 = Reached.sampleBusy ∧
      ¬ PassOpen Reached.sampleBroken.trace := by
  have busy : Reached Reached.sampleBusy := Reached.sample_reached.through _
  have broken : Reached Reached.sampleBroken := ((busy.move _ _).store _).move _ _
  obtain ⟨-, -, -, processing, calls⟩ := one_pass_at_a_time busy
  obtain ⟨-, -, -, released, -⟩ := one_pass_at_a_time broken
  have inPass : PassOpen Reached.sampleBusy.trace := processing.mp (by decide +kernel)
  obtain ⟨-, running, unchanged⟩ := calls .epoch
  obtain ⟨same, same'⟩ := unchanged _ (running.mpr ⟨by decide +kernel, inPass⟩)
  refine ⟨inPass, same, same', fun still => ?_⟩
  have free : Reached.sampleBroken.isProcessing = false := by decide +kernel
  rw [released.mpr still] at free
  cases free

end Outbox
