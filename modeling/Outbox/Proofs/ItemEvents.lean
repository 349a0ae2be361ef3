import Outbox.Proofs.RetryBookkeeping
import Outbox.Proofs.Signals

/-!
# What item events say of the store

Whoever hears what became of a mutation may look the mutation up at once, and should find what was
told. Every item event follows the statement whose success it tells, and between the two nobody else
gets at the store, so a confirmed mutation is gone, a dead letter is filed, and a retry state is in
the row. The exception is a row that was removed while its mutation was being sent: the statement
that writes the retry state back succeeds without a row, and nobody asks whether there was one. Such
a failure is told and counted like any other.

Nothing is assumed of the store but that every queued row has a state, which no statement changes.
-/
namespace Outbox

open Table Time

/-! ## Rows with a state -/

namespace Database

/-- Every row of the queue has a state. -/
def Stated (db : Database) : Prop := ∀ r ∈ db.rowsOf .queue, r.cell 8 ≠ .null

instance (db : Database) : Decidable db.Stated :=
  inferInstanceAs (Decidable (∀ r ∈ db.rowsOf .queue, r.cell 8 ≠ .null))

namespace Stated

variable {db db' : Database}

/-- Nothing that becomes of the queue leaves a row without a state. -/
theorem step (stated : db.Stated) (step : db.Step db') : db'.Stated := by
  have became : QueueStep (db.rowsOf .queue) (db'.rowsOf .queue) := step.effect.2
  unfold Stated at stated ⊢
  generalize db'.rowsOf .queue = rows at became ⊢
  cases became with
  | kept => exact stated
  | added m => exact forall_added stated fun number => by simp [(Row.holds_toRow number m).state]
  | removed id => exact fun r member => stated r (List.mem_of_mem_filter member)
  | cleared => exact fun r none => by cases none
  | retried m =>
    refine forall_replaced stated fun r member _ => ?_
    simp [(Row.holds_overwrite (stated r member) m).state]

theorem steps (stated : db.Stated) (steps : db.Steps db') : db'.Stated :=
  steps.keep (fun _ _ next stated => stated.step next) stated

end Stated

/-! ## What an event says -/

/-- No mutation of the id is queued. -/
def Lacks (db : Database) (id : String) : Prop := .text id ∉ keysOf (db.rowsOf .queue)

instance (db : Database) (id : String) : Decidable (db.Lacks id) :=
  inferInstanceAs (Decidable (.text id ∉ keysOf (db.rowsOf .queue)))

/-- A mutation of the id is queued, and its row is like this. -/
def Queues (db : Database) (id : String) (P : Row → Prop) : Prop :=
  .text id ∈ keysOf (db.rowsOf .queue) ∧ ∀ r ∈ db.rowsOf .queue, r.cell 0 = .text id → P r

/-- What an event says of its mutation holds in the database. -/
def Fits (db : Database) : Effect → Prop
  | .emitted (.itemSynced id _ _) => db.Lacks id
  | .emitted (.itemFailed id retries error) =>
    db.Queues id fun r => r.cell 6 = .integer retries ∧ r.cell 7 = .text error
  | .emitted (.itemExhausted id retries lastError) =>
    db.Queues id fun r => r.cell 6 = .integer retries ∧ r.cell 7 = .ofOption .text lastError ∧
      r.cell 8 = .text DeliveryState.exhausted.name
  | .emitted (.itemDeadLettered id _ _) => db.HasBuried id
  | _ => True

end Database

namespace Effect

/-- The id of a mutation that an effect says was tried in vain and may be tried again. -/
def retried? : Effect → Option String
  | .emitted (.itemFailed id ..) | .emitted (.itemExhausted id ..) => some id
  | _ => none

/-- The event of such an effect. -/
def notice? : Effect → Option Event
  | .emitted (.itemFailed id retries error) => some (.itemFailed id retries error)
  | .emitted (.itemExhausted id retries lastError) => some (.itemExhausted id retries lastError)
  | _ => none

theorem eq_emitted_of_notice? {x : Effect} {event : Event} (notice : x.notice? = some event) :
    x = .emitted event := by
  unfold notice? at notice
  split at notice
  · exact congrArg emitted (Option.some.inj notice)
  · exact congrArg emitted (Option.some.inj notice)
  · cases notice

/-- Whether an effect tells a failure for a while. -/
def isFailure : Effect → Bool
  | .emitted (.itemFailed ..) => true
  | _ => false

end Effect

namespace Database

variable {before after after' : Database} {x : Effect}

/-- What an event says holds after a step, or it says that a mutation was tried in vain which was
not queued any more before the step. -/
def Bears (before after : Database) (x : Effect) : Prop :=
  after.Fits x ∨ ∃ id ∈ x.retried?, before.Lacks id ∧ after.Lacks id

theorem Fits.of_other (other : x.topic ≠ .fate) : after.Fits x := by
  cases x with
  | emitted event =>
    cases event with
    | statusChanged _ _ | queueChanged _ => trivial
    | _ => exact absurd rfl other
  | _ => trivial

/-- Only the queue and the dead letters count. -/
theorem Fits.of_rows (fits : after.Fits x) (queue : after'.rowsOf .queue = after.rowsOf .queue)
    (letters : after'.rowsOf .deadLetters = after.rowsOf .deadLetters) : after'.Fits x := by
  cases x with
  | emitted event =>
    cases event with
    | statusChanged _ _ | queueChanged _ => trivial
    | _ => simpa only [Fits, Lacks, Queues, HasBuried, queue, letters] using fits
  | _ => trivial

/-- Opening the store for the next look-up does not disturb what was said. -/
theorem Bears.keeps (bears : before.Bears after x) (keeps : after.Keeps after') :
    before.Bears after' x := by
  have queue := keeps.rows .queue rfl
  refine bears.imp (fun fits => fits.of_rows queue (keeps.rows .deadLetters rfl)) ?_
  rintro ⟨id, tried, gone, still⟩
  exact ⟨id, tried, gone, by rwa [Lacks, queue]⟩

/-- A retry state that was written back is in the row of its mutation, if there was one. -/
theorem queues_of_replaced (stated : before.Stated) {m : Mutation}
    (written : after.rowsOf .queue = replaced [6, 7, 8] m.id m.toRow (before.rowsOf .queue))
    {P : Row → Prop} (holds : ∀ r : Row, r.Holds m.tally → P r) :
    after.Queues m.id P ∨ before.Lacks m.id ∧ after.Lacks m.id := by
  have keys : keysOf (after.rowsOf .queue) = keysOf (before.rowsOf .queue) := by
    rw [written]
    exact m.keysOf_replaced m.id _
  -- Writing back removes no row and adds none.
  by_cases present : .text m.id ∈ keysOf (before.rowsOf .queue)
  · refine .inl ⟨keys ▸ present, fun r member key => ?_⟩
    rw [written] at member
    obtain ⟨old, there, rfl⟩ := List.mem_map.mp member
    by_cases keyed : old.hasKey m.id = true
    · rw [if_pos keyed]
      exact holds _ (Row.holds_overwrite (stated old there) m)
    · rw [if_neg keyed] at key
      exact absurd (Row.hasKey_iff.mpr key) keyed
  · exact .inr ⟨present, by rwa [Lacks, keys]⟩

end Database

/-! ## Answers -/

/-- How many failures a pass has counted that were for a while. -/
def Report.failures (r : Report) : Nat := r.retried + r.exhausted

namespace Engine

variable {e e₁ : Engine}

/-- What statements did to the database for which the store was opened, if they succeeded. -/
theorem access_ran {α : Type} {f : Database → Database × Except Error α} {now : Instant} {x : α}
    (run : e.access now f = (e₁, .ok x)) :
    ∃ db, e.storage.content.Keeps db ∧ f db = (e₁.storage.content, .ok x) := by
  refine ⟨_, (e.unmoved_opened now).tables, ?_⟩
  rcases e.access_content_cases now f with ⟨-, fault, failed⟩ | ran
  · rw [run] at failed
    cases failed
  · rw [run] at ran
    exact ran

/-- From an engine with one report to another one with the next, every event bears out, and the
report counts the failures that were told. -/
def Settles (e : Engine) (report : Report) (r : Engine × Report) : Prop :=
  ∃ told, r.1.trace = told ++ e.trace ∧
    (∀ x ∈ told, e.storage.content.Bears r.1.storage.content x) ∧
    r.2.failures = report.failures + told.countP Effect.isFailure

theorem countP_isFailure_of_other {told : List Effect} (other : ∀ x ∈ told, x.topic ≠ .fate) :
    told.countP Effect.isFailure = 0 := by
  refine List.countP_eq_zero.mpr fun x member failure => ?_
  cases x with
  | emitted event =>
    cases event with
    | itemFailed _ _ _ => exact other _ member rfl
    | _ => cases failure
  | _ => cases failure

/-- Item events come last, after what had to be done for them. -/
theorem Settles.of_events {topics : List Topic} {e' : Engine} {report report' : Report}
    (events : List Effect) (said : Shows topics e e₁) (silent : .fate ∉ .note :: topics)
    (trace : e'.trace = events ++ e₁.trace) (storage : e'.storage = e₁.storage)
    (bears : ∀ x ∈ events, e.storage.content.Bears e₁.storage.content x)
    (counted : report'.failures = report.failures + events.countP Effect.isFailure) :
    Settles e report (e', report') := by
  obtain ⟨told, before, other⟩ := said.apart silent
  refine ⟨events ++ told, ?_, fun x member => ?_, ?_⟩
  · simp only [trace, before, List.append_assoc]
  · simp only [storage]
    rcases List.mem_append.mp member with new | earlier
    · exact bears x new
    · exact .inl (.of_other (other x earlier))
  · rw [List.countP_append, countP_isFailure_of_other other]
    exact counted

theorem Settles.of_silent {topics : List Topic} (said : Shows topics e e₁)
    (silent : .fate ∉ .note :: topics) (report : Report) : Settles e report (e₁, report) :=
  .of_events [] said silent rfl rfl (by simp) rfl

/-! ### The statements -/

theorem lacks_of_dequeue {id : String} {now : Instant} {found : Bool}
    (run : e.dequeue id now = (e₁, .ok found)) : e₁.storage.content.Lacks id := by
  unfold dequeue at run
  split at run
  · cases run
  next e₂ removed pending ran =>
    obtain ⟨db, -, deleted⟩ := access_ran ran
    have storage : e₁.storage = e₂.storage := by
      cases run
      split <;> rfl
    unfold Database.dequeue at deleted
    split at deleted
    · cases deleted
    next delete =>
      have rows := (Database.rewrites_of_deleteKey (Error.ofTable_eq_ok_iff.mp delete)).rows
      obtain ⟨rfl, -⟩ := Prod.mk.inj deleted
      rw [storage, Database.Lacks, rows]
      exact fun there => (mem_keysOf_without.mp there).2 rfl

theorem rows_of_update {m : Mutation} {now : Instant} {found : Bool}
    (run : e.update m now = (e₁, .ok found)) :
    e₁.storage.content.rowsOf .queue =
      replaced [6, 7, 8] m.id m.toRow (e.storage.content.rowsOf .queue) := by
  have run : e.access now (Database.atomically fun db => db.updateRetryState m) =
      (e₁, .ok found) := run
  obtain ⟨db, keeps, ran⟩ := access_ran run
  rcases Database.atomically_cases (fun db => db.updateRetryState m) db with
    ⟨fault, failed⟩ | ⟨after, there, succeeded, done⟩
  · cases failed.symm.trans ran
  · cases succeeded.symm.trans ran
    rw [(Database.rewrites_of_update (Error.ofTable_eq_ok_iff.mp done)).rows,
      keeps.rows .queue rfl]

theorem hasBuried_of_moved {m : Mutation} {now : Instant} {l : DeadLetter}
    (run : e.moveToDeadLetters m now = (e₁, .ok l)) : e₁.storage.content.HasBuried m.id := by
  unfold moveToDeadLetters at run
  simp only at run
  split at run
  · cases run
  next e₂ pending ran =>
    cases run
    obtain ⟨db, -, ran⟩ := access_ran ran
    rcases db.bury_cases ⟨m, now⟩ with ⟨fault, failed⟩ | ⟨after, _, succeeded, -, -, filed, left⟩
    · cases failed.symm.trans ran
    · obtain ⟨rfl, -⟩ := Prod.mk.inj (succeeded.symm.trans ran)
      change Database.HasBuried e₂.storage.content m.id
      rw [Database.HasBuried, filed, left]
      exact ⟨(mem_keysOf_upserted rfl rfl).mpr (.inr rfl),
        fun there => (mem_keysOf_without.mp there).2 rfl⟩

/-! ### What follows from an answer -/

theorem settles_confirm (e : Engine) (m : Mutation) (report : Report) (now : Instant) :
    Settles e report (contain m report (e.confirm m report now)) := by
  have removed := (e.adds_dequeue m.id now).told
  unfold confirm
  split
  next run =>
    rw [run] at removed
    exact .of_silent (removed.trans (adds_log _ _).told) (by simp) report
  next run =>
    rw [run] at removed
    have gone := lacks_of_dequeue run
    refine .of_events [.emitted (.itemSynced m.id m.kind.name m.entityId)]
      (removed.trans (adds_log _ _).told) (by simp) rfl rfl ?_ rfl
    exact List.forall_mem_singleton.mpr (.inl gone)

/-- What is told of a retry state that was written back. -/
theorem bears_retried (stated : e.storage.content.Stated) {m : Mutation} {x : Effect}
    {now : Instant} {found : Bool} (run : e.update m now = (e₁, .ok found))
    (tried : m.id ∈ x.retried?)
    (fits : ∀ db : Database, (db.Queues m.id fun r => r.Holds m.tally) → db.Fits x) :
    e.storage.content.Bears e₁.storage.content x := by
  refine (Database.queues_of_replaced stated (rows_of_update run) fun r held => held).imp
    (fits _) fun gone => ⟨m.id, tried, gone⟩

theorem bears_failed (stated : e.storage.content.Stated) {m m' : Mutation} {error : String}
    {now : Instant} {found : Bool} (run : e.update m' now = (e₁, .ok found)) (id : m'.id = m.id)
    (retries : m'.retries = m.retries) (last : m'.lastError = some error) :
    e.storage.content.Bears e₁.storage.content (.emitted (.itemFailed m.id m.retries error)) := by
  rw [← id, ← retries]
  refine bears_retried stated run rfl fun db queued => ⟨queued.1, fun r member key => ?_⟩
  have held := queued.2 r member key
  exact ⟨held.retries, held.lastError.trans (congrArg _ last)⟩

theorem settles_retryLater (stated : e.storage.content.Stated) {m : Mutation} {error : String}
    (last : m.lastError = some error) (report : Report) (now : Instant) :
    Settles e report (contain m report (e.retryLater m error report now)) := by
  have written : Shows [] e (e.update m now).1 := (e.adds_update m now).told
  unfold retryLater
  split
  next run =>
    rw [run] at written
    exact .of_silent (written.trans (adds_log _ _).told) (by simp) report
  next e₁ _ run =>
    rw [run] at written
    have failed := bears_failed (m := m) stated run rfl rfl last
    exact .of_events [.emitted (.itemFailed m.id m.retries error)]
      (written.trans (adds_log _ _).told) (by simp) rfl rfl (List.forall_mem_singleton.mpr failed)
      (Nat.add_right_comm _ _ _)

theorem settles_exhaust (stated : e.storage.content.Stated) {m : Mutation} {error : String}
    (last : m.lastError = some error) (report : Report) (now : Instant) :
    Settles e report (contain m report (e.exhaust m error report now)) := by
  have written : Shows [] e (e.update { m with state := .exhausted } now).1 :=
    (e.adds_update _ now).told
  unfold exhaust
  simp only
  split
  next run =>
    rw [run] at written
    exact .of_silent (written.trans (adds_log _ _).told) (by simp) report
  next e₁ _ run =>
    rw [run] at written
    have failed := bears_failed (m := m) stated run rfl rfl last
    have marked : e.storage.content.Bears e₁.storage.content
        (.emitted (.itemExhausted m.id m.retries m.lastError)) := by
      refine bears_retried stated run rfl fun db queued => ⟨queued.1, fun r member key => ?_⟩
      have held := queued.2 r member key
      exact ⟨held.retries, held.lastError, held.state⟩
    -- The mark is announced where the copy did not have it.
    split
    · exact .of_events [.emitted (.itemFailed m.id m.retries error)] written (by simp) rfl rfl
        (List.forall_mem_singleton.mpr failed) rfl
    · refine .of_events [.emitted (.itemFailed m.id m.retries error),
        .emitted (.itemExhausted m.id m.retries m.lastError)]
        (written.trans (adds_log _ _).told) (by simp) rfl rfl ?_ rfl
      exact List.forall_mem_cons.mpr ⟨failed, List.forall_mem_singleton.mpr marked⟩

theorem settles_giveUp (e : Engine) (m : Mutation) (failure : Failure) (report : Report)
    (now : Instant) : Settles e report (contain m report (e.giveUp m failure report now)) := by
  have moved := (e.adds_moveToDeadLetters m now).told
  unfold giveUp
  split
  next run =>
    rw [run] at moved
    exact .of_silent (moved.trans (adds_log _ _).told) (by simp) report
  next run =>
    rw [run] at moved
    have buried := hasBuried_of_moved run
    refine .of_events [.emitted (.itemDeadLettered m.id failure.status? failure.message)]
      (moved.trans (adds_log _ _).told) (by simp) rfl rfl ?_ rfl
    exact List.forall_mem_singleton.mpr (.inl buried)

theorem settles_settleFailure (stated : e.storage.content.Stated) (m : Mutation)
    (failure : Failure) (report : Report) (now : Instant) :
    Settles e report (contain m report (e.settleFailure m failure report now)) := by
  -- Counting the failure does not change the id, which is all that is noted if settling fails.
  have kept (r : Engine × Except Error Report) :
      contain m report r = contain (m.recordFailure failure.message) report r := by
    rcases r with ⟨_, _ | _⟩ <;> rfl
  unfold settleFailure
  rw [kept]
  simp only
  split
  · exact settles_retryLater stated rfl report now
  · exact settles_exhaust stated rfl report now
  · exact settles_giveUp e _ failure report now

/-! ### The way on to the next call -/

theorem storage_publish (e : Engine) (status : Status) (now : Instant) :
    (e.publish status now).storage = e.storage := by
  have called (calls : List Call) (e : Engine) :
      (calls.foldl (fun e call => e.record (.called call)) e).storage = e.storage := by
    induction calls generalizing e with
    | nil => rfl
    | cons call calls ih => exact ih (e.record (.called call))
  unfold publish
  simp only [logAll_eq]
  exact called _ { e with notifier := (e.notifier.publish status now).notifier }

theorem storage_send (e : Engine) (m : Mutation) : (e.send m).storage = e.storage := by
  unfold send
  simp only
  split <;> rfl

theorem keeps_query {α : Type} (e : Engine) (now : Instant) (f : Database → Except Error α) :
    e.storage.content.Keeps (e.query now f).1.storage.content := by
  have opened := (e.unmoved_opened now).tables
  rcases e.access_content_cases now fun db => (db, f db) with ⟨same, -⟩ | ran
  · exact same ▸ opened
  · obtain ⟨same, -⟩ := Prod.mk.inj ran
    exact same ▸ opened

theorem keeps_continuePass (e : Engine) (rest : List Mutation) (report : Report) (now : Instant) :
    e.storage.content.Keeps (e.continuePass rest report now).1.storage.content := by
  cases rest with
  | nil =>
    let published := (e.log (.info ("✅ 同步队列处理完成: " ++ report.summary))).publish .synced now
    have storage : published.storage = e.storage := storage_publish _ _ _
    have looked := published.keeps_query now Database.queueStats
    rw [storage] at looked
    change e.storage.content.Keeps
      (if published.debug then published.logStats now else published).storage.content
    split
    · unfold logStats
      split
      next run =>
        rw [run] at looked
        exact looked
      next run =>
        rw [run] at looked
        exact looked
    · rw [storage]
      exact .refl _
  | cons m rest =>
    change e.storage.content.Keeps (e.send m).storage.content
    rw [storage_send]
    exact .refl _

/-- The report with which a pass ends or goes on. -/
def reportAfter (r : Engine × Option Outcome) : Option Report :=
  match r with
  | (_, some (.finished report)) => some report
  | (e, none) => e.pass.map (·.report)
  | _ => none

/-- From an engine with one report on, every event bears out, and the report with which the pass
ends or goes on counts the failures that were told. -/
def Accounts (e : Engine) (report : Report) (r : Engine × Option Outcome) : Prop :=
  ∃ told, r.1.trace = told ++ e.trace ∧
    (∀ x ∈ told, e.storage.content.Bears r.1.storage.content x) ∧
    ∀ report' ∈ reportAfter r, report'.failures = report.failures + told.countP Effect.isFailure

theorem failures_continuePass (e : Engine) (rest : List Mutation) (report : Report)
    (now : Instant) :
    ∀ r ∈ reportAfter (e.continuePass rest report now), r.failures = report.failures := by
  cases rest with
  | nil =>
    rintro r ⟨⟩
    rfl
  | cons m rest =>
    rintro r ⟨⟩
    rfl

/-- The next call, or the end of the pass, does not disturb what was told before. -/
theorem Settles.goesOn {report : Report} {settled : Engine × Report}
    (settles : Settles e report settled) (rest : List Mutation) (now : Instant) :
    Accounts e report (settled.1.continuePass rest settled.2 now) := by
  obtain ⟨told, trace, bears, counted⟩ := settles
  have keeps := settled.1.keeps_continuePass rest settled.2 now
  obtain ⟨later, trace', other⟩ :=
    (settled.1.adds_continuePass rest settled.2 now).told.apart (t := .fate) (by simp)
  refine ⟨later ++ told, by rw [trace', trace, List.append_assoc], fun x member => ?_,
    fun r goes => ?_⟩
  · rcases List.mem_append.mp member with last | settling
    · exact .inl (.of_other (other x last))
    · exact (bears x settling).keeps keeps
  · rw [settled.1.failures_continuePass rest settled.2 now r goes, counted, List.countP_append,
      countP_isFailure_of_other other, Nat.zero_add]

/-- An answer is noted before anything comes of it. -/
theorem Accounts.heard {report : Report} {m : Mutation} {a : Answer}
    {r : Engine × Option Outcome} (accounts : Accounts (e.record (.answered m a)) report r) :
    Accounts e report r := by
  obtain ⟨told, trace, bears, counted⟩ := accounts
  refine ⟨told ++ [.answered m a], ?_, fun x member => ?_, fun r goes => ?_⟩
  · rw [trace, List.append_assoc]
    rfl
  · rcases List.mem_append.mp member with settling | first
    · exact bears x settling
    · exact List.mem_singleton.mp first ▸ .inl trivial
  · rw [counted r goes, List.countP_append]
    rfl

/-- From an answer to the next call every event bears out, and the report counts the failures that
were told. -/
theorem accounts_answer (stated : e.storage.content.Stated) {p : Pass} (waits : e.pass = some p)
    (a : Answer) (now : Instant) : Accounts e p.report (e.answer a now) := by
  unfold answer
  rw [waits]
  simp only
  split
  · refine ⟨[.answered p.current .panicked], rfl, ?_, fun r none => by cases none⟩
    exact List.forall_mem_singleton.mpr (.inl trivial)
  · exact ((settles_confirm _ p.current p.report now).goesOn p.rest now).heard
  next failure =>
    have stated : (e.record (.answered p.current (.failed failure))).storage.content.Stated :=
      stated
    exact ((settles_settleFailure stated p.current failure p.report now).goesOn p.rest now).heard

/-- Whatever is done, every event bears out. -/
theorem told_act (stated : e.storage.content.Stated) (now : Instant) (a : Act) :
    ∃ told, (e.act now a).trace = told ++ e.trace ∧
      (∀ x ∈ told, e.storage.content.Bears (e.act now a).storage.content x) ∧
      ∀ p answer, e.pass = some p → a = .move (.answer answer) →
        ∀ r ∈ reportAfter (e.answer answer now),
          r.failures = p.report.failures + told.countP Effect.isFailure := by
  by_cases answers : ∃ answer, a = .move (.answer answer)
  · obtain ⟨answer, rfl⟩ := answers
    cases waits : e.pass with
    | none =>
      -- Nobody waits for the answer.
      refine ⟨[], ?_, by simp, fun p _ some => by cases some⟩
      simp [act, perform, inFlight, waits]
    | some p =>
      have run : e.act now (.move (.answer answer)) = (e.answer answer now).1 := by
        simp [act, perform, inFlight, waits]
      obtain ⟨told, trace, bears, counted⟩ := accounts_answer stated waits answer now
      rw [run]
      refine ⟨told, trace, bears, ?_⟩
      rintro _ _ ⟨⟩ ⟨⟩
      exact counted
  · have unanswered (answer : Answer) : a ≠ .move (.answer answer) :=
      fun same => answers ⟨answer, same⟩
    -- Nothing but an answer tells of the fate of a mutation.
    obtain ⟨told, trace, other⟩ :=
      (e.recounts_act_of_unanswered now unanswered).told.apart (t := .fate) (by simp)
    exact ⟨told, trace, fun x member => .inl (.of_other (other x member)),
      fun p answer _ same => absurd same (unanswered answer)⟩

end Engine

/-- At any time of a run, whatever was done before and is done next and whatever of it fails: every
item event that comes of it says what is in the store. A confirmed mutation is not queued any more,
a dead letter is filed and not queued, and the row of a mutation that failed for a while holds the
count, the error and, where it was announced as exhausted, the state that were told; unless that
mutation was not queued any more when its answer came. And with an answer the report of the pass
counts as many failures as were told. -/
theorem item_events_fit_store {e : Engine} (stated : e.storage.content.Stated)
    (acts : List (Instant × Act)) (now : Instant) (a : Act) :
    let before := e.afterActs acts
    let after := before.act now a
    ∃ told, after.trace = told ++ before.trace ∧
      (∀ x ∈ told, after.storage.content.Fits x ∨ ∃ id ∈ x.retried?,
        before.storage.content.Lacks id ∧ after.storage.content.Lacks id) ∧
      ∀ p answer, before.pass = some p → a = .move (.answer answer) →
        ∀ r ∈ Engine.reportAfter (before.answer answer now),
          r.retried + r.exhausted =
            p.report.retried + p.report.exhausted + told.countP Effect.isFailure :=
  Engine.told_act (stated.steps (e.recounts_afterActs acts).content) now a

namespace ItemEvents

def sampleTried : Change := ⟨"m1", .create, .incidents, "i1", .obj [("open", .bool true)]⟩

def sampleStart : Engine := .inMemory ⟨2⟩ true

/-- A change is being sent. -/
def sampleSending : List (Instant × Act) :=
  [(.epoch, .move (.enqueue sampleTried)), (.epoch, .move .process)]

/-- It is removed meanwhile. -/
def sampleRemoved : List (Instant × Act) := sampleSending ++ [(.epoch, .move (.purge "m1"))]

/-- The call fails for a while. -/
def sampleFailed : Act := .move (.answer (.failed (.transient "HTTP 503")))

def sampleTold : Event := .itemFailed "m1" 1 "transient: HTTP 503"

/-- What is noticed for the first time has been told just now. -/
theorem mem_of_noticed {told earlier later : List Effect} {event : Event}
    (grown : later = told ++ earlier)
    (noticed : later.filterMap Effect.notice? = event :: earlier.filterMap Effect.notice?) :
    .emitted event ∈ told := by
  rw [grown, List.filterMap_append, ← List.singleton_append] at noticed
  have new : event ∈ told.filterMap Effect.notice? := by
    rw [List.append_cancel_right noticed]
    exact List.mem_cons_self
  obtain ⟨x, member, notice⟩ := List.mem_filterMap.mp new
  exact Effect.eq_emitted_of_notice? notice ▸ member

theorem sample_told {acts : List (Instant × Act)} (either : acts ∈ [sampleSending, sampleRemoved])
    {told : List Effect}
    (grown : ((sampleStart.afterActs acts).act .epoch sampleFailed).trace =
      told ++ (sampleStart.afterActs acts).trace) : .emitted sampleTold ∈ told := by
  refine mem_of_noticed grown ?_
  rcases List.mem_pair.mp either with rfl | rfl <;> decide +kernel

end ItemEvents

/-- The theorem at a call that fails while its mutation is queued, and at one that fails after it
was removed. -/
theorem retry_state_found_unless_removed :
    ((ItemEvents.sampleStart.afterActs ItemEvents.sampleSending).act .epoch
      ItemEvents.sampleFailed).storage.content.Fits (.emitted ItemEvents.sampleTold) ∧
    ((ItemEvents.sampleStart.afterActs ItemEvents.sampleRemoved).act .epoch
      ItemEvents.sampleFailed).storage.content.Lacks "m1" := by
  have stated : ItemEvents.sampleStart.storage.content.Stated := by decide +kernel
  constructor
  · obtain ⟨told, grown, fits, -⟩ := item_events_fit_store stated ItemEvents.sampleSending .epoch
      ItemEvents.sampleFailed
    rcases fits _ (ItemEvents.sample_told (by simp) grown) with fits | ⟨id, tried, gone, -⟩
    · exact fits
    · cases tried
      exact absurd gone (by decide +kernel)
  · obtain ⟨told, grown, fits, -⟩ := item_events_fit_store stated ItemEvents.sampleRemoved .epoch
      ItemEvents.sampleFailed
    rcases fits _ (ItemEvents.sample_told (by simp) grown) with ⟨queued, -⟩ | ⟨id, tried, -, gone⟩
    · exact absurd queued (by decide +kernel)
    · cases tried
      exact gone

/-- A failure is not always told of a mutation whose row holds it: one that was removed while it was
being sent is told all the same. -/
theorem failure_told_without_row :
    ¬ ∀ (acts : List (Instant × Act)) (now : Instant) (a : Act) (told : List Effect),
      let before := ItemEvents.sampleStart.afterActs acts
      (before.act now a).trace = told ++ before.trace →
        ∀ x ∈ told, (before.act now a).storage.content.Fits x := by
  intro always
  obtain ⟨told, grown, -⟩ := Engine.told_act
    (show (ItemEvents.sampleStart.afterActs ItemEvents.sampleRemoved).storage.content.Stated by
      decide +kernel) .epoch ItemEvents.sampleFailed
  obtain ⟨queued, -⟩ := always ItemEvents.sampleRemoved .epoch ItemEvents.sampleFailed told grown _
    (ItemEvents.sample_told (by simp) grown)
  exact absurd queued (by decide +kernel)

end Outbox
