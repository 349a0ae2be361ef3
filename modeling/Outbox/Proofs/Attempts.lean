import Outbox.Proofs.Refusals
import Outbox.Proofs.Signals

/-!
# A pass in a store that refuses

Whatever the store does about one mutation, the pass goes on with the next one. The trouble is
logged, and that is all: a fate is told and counted only after the statements that make it true went
through. So from one call to the next an engine does what the write-back does to the database, and
what it shows of the mutation depends on whether that went through.

What is shown is kept apart by topics. Nearly every step of a pass shows nothing of the fate of a
mutation and nothing of the stages of the pass, which the topics of the step say at once; the few
others are equations.
-/
namespace Outbox

open Table Time

namespace Engine

/-! ## What was shown of a topic -/

/-- All that was shown of a topic, in that order. -/
def about (e : Engine) (t : Topic) : List Effect := e.trace.reverse.filter (·.topic = t)

variable {e e' e'' : Engine} {topics : List Topic} {t : Topic}

theorem Shows.about_eq (shows : Shows topics e e') (other : t ∉ .note :: topics) :
    e'.about t = e.about t := by
  obtain ⟨told, trace, apart⟩ := shows.apart other
  have none : told.reverse.filter (·.topic = t) = [] :=
    List.filter_eq_nil_iff.mpr fun x member => by simpa using apart x (List.mem_reverse.mp member)
  rw [about, trace, List.reverse_append, List.filter_append, none, List.append_nil, about]

theorem about_record (e : Engine) (x : Effect) (t : Topic) :
    (e.record x).about t = e.about t ++ if x.topic = t then [x] else [] := by
  rw [about, record, List.reverse_cons, List.filter_append, List.filter_singleton, about]
  by_cases same : x.topic = t <;> simp [same]

/-- What an engine has become: its view, and what it has shown since then of the fates of mutations
and of the pass. -/
structure Becomes (e e' : Engine) (v : View) (fates passed : List Effect) : Prop where
  view : e'.view = v
  fates : e'.about .fate = e.about .fate ++ fates
  passed : e'.about .pass = e.about .pass ++ passed

namespace Becomes

variable {v v' : View} {fates fates' passed passed' : List Effect}

theorem trans (first : e.Becomes e' v fates passed) (second : e'.Becomes e'' v' fates' passed') :
    e.Becomes e'' v' (fates ++ fates') (passed ++ passed') where
  view := second.view
  fates := by rw [second.fates, first.fates, List.append_assoc]
  passed := by rw [second.passed, first.passed, List.append_assoc]

/-- What leaves the view as it is. -/
theorem talk (first : e.Becomes e' v fates passed)
    (second : e'.Becomes e'' e'.view fates' passed') :
    e.Becomes e'' v (fates ++ fates') (passed ++ passed') :=
  first.view ▸ first.trans second

/-- What shows neither a fate nor the pass. -/
theorem of_shows (shows : Shows topics e e') (fate : .fate ∉ .note :: topics)
    (pass : .pass ∉ .note :: topics) (view : e'.view = v) : e.Becomes e' v [] [] where
  view := view
  fates := by rw [shows.about_eq fate, List.append_nil]
  passed := by rw [shows.about_eq pass, List.append_nil]

theorem log (e : Engine) (line : LogLine) : e.Becomes (e.log line) e.view [] [] :=
  of_shows (show Shows [] e (e.log line) from (e.adds_log line).told) (by simp) (by simp)
    (e.view_log line)

theorem emit (e : Engine) {event : Event} (fate : (Effect.emitted event).topic = .fate) :
    e.Becomes (e.emit event) e.view [.emitted event] [] where
  view := e.view_emit event
  fates := (about_record _ _ _).trans (by rw [if_pos fate]; rfl)
  passed := (about_record _ _ _).trans (by rw [if_neg (by simp [fate])]; rfl)

/-- A fate is told after it was logged. -/
theorem tell (e : Engine) (line : LogLine) {event : Event}
    (fate : (Effect.emitted event).topic = .fate) :
    e.Becomes ((e.log line).emit event) e.view [.emitted event] [] :=
  (log e line).talk (emit _ fate)

theorem publish (e : Engine) (status : Status) (now : Instant)
    (pass : (Effect.emitted (.statusChanged status now)).topic = .pass) :
    e.Becomes (e.publish status now) e.view [] [.emitted (.statusChanged status now)] := by
  obtain ⟨told, adds, published⟩ := e.publish_eq status now
  have quiet {t : Topic} (other : t ≠ .note) : told.about t = e.about t :=
    (adds []).told.about_eq (by simpa using other)
  refine ⟨e.view_publish status now, ?_, ?_⟩
  · rw [published, about_record, if_neg (by simp [pass]), quiet (by simp)]
  · rw [published, about_record, if_pos pass, quiet (by simp)]

/-- Sending is noted in debug mode and shown in any case. -/
theorem send (e : Engine) (m : Mutation) :
    e.Becomes (e.send m) { e.view with deliveries := e.view.deliveries ++ [m] } [] [.sent m] := by
  refine ⟨e.view_send m, ?_, ?_⟩
  · rw [(e.adds_send m).told.about_eq (by simp), List.append_nil]
  · have sent : (Effect.sent m).topic = .pass := rfl
    unfold Engine.send
    simp only
    split
    · rw [about_record, if_pos sent, (log e _).passed, List.append_nil]
    · rw [about_record, if_pos sent]

end Becomes

/-! ## Statements on an open store -/

/-- An operation has run statements and has shown no more than the length of the queue. -/
structure Runs {α : Type} (e : Engine) (wrote : Database × Bool) (r : Engine × Except Error α) :
    Prop where
  view : r.1.view = e.view.withDatabase wrote.1
  isOk : r.2.isOk = wrote.2
  told : Shows [.length] e r.1

theorem runs_dequeue (isOpen : e.view.link.isSome = true) (id : String) (now : Instant) :
    e.Runs (Exchange.outcome (e.view.database.dequeue id)) (e.dequeue id now) := by
  refine ⟨?_, ?_, (e.adds_dequeue id now).told⟩
  all_goals
    simp only [dequeue, access_of_open isOpen]
    rcases ran : e.view.database.dequeue id with ⟨db, fault | ⟨removed, pending⟩⟩
  · exact view_setDatabase isOpen _
  · cases removed with
    | true => exact (view_emit _ _).trans (view_setDatabase isOpen _)
    | false => exact view_setDatabase isOpen _
  · rfl
  · rfl

theorem runs_update (isOpen : e.view.link.isSome = true) (m : Mutation) (now : Instant) :
    e.Runs (Exchange.outcome (e.view.database.atomically fun db => db.updateRetryState m))
      (e.update m now) := by
  refine ⟨?_, ?_, (e.adds_update m now).told⟩
  all_goals rw [update, change, access_of_open isOpen]
  · exact view_setDatabase isOpen _
  · rfl

theorem runs_moveToDeadLetters (isOpen : e.view.link.isSome = true) (m : Mutation)
    (now : Instant) :
    e.Runs (Exchange.outcome (e.view.database.bury ⟨m, now⟩)) (e.moveToDeadLetters m now) := by
  refine ⟨?_, ?_, (e.adds_moveToDeadLetters m now).told⟩
  all_goals
    simp only [moveToDeadLetters, access_of_open isOpen]
    rcases ran : e.view.database.bury ⟨m, now⟩ with ⟨db, fault | pending⟩
  · exact view_setDatabase isOpen _
  · exact (view_emit _ _).trans ((view_log _ _).trans (view_setDatabase isOpen _))
  · rfl
  · rfl

/-- What came of a mutation: what was written, the events that tell it, and its count. If the store
has refused, neither is told nor counted. -/
structure Concludes (e : Engine) (wrote : Database × Bool) (events : List Event)
    (report counted : Report) (r : Engine × Report) : Prop where
  becomes : e.Becomes r.1 (e.view.withDatabase wrote.1)
    (if wrote.2 then events.map .emitted else []) []
  report : r.2 = if wrote.2 then counted else report

/-- An operation that tells a fate if its statements went through and otherwise hands on their
fault. -/
theorem Runs.concludes {α : Type} {wrote : Database × Bool} {events : List Event}
    {report counted : Report} {r : Engine × Except Error α} {done : Engine × Except Error Report}
    (runs : e.Runs wrote r) (m : Mutation)
    (failed : ∀ e' fault, r = (e', .error fault) → done = (e', .error fault))
    (went : ∀ e' a, r = (e', .ok a) → ∃ e'', done = (e'', .ok counted) ∧
      e'.Becomes e'' e'.view (events.map .emitted) []) :
    e.Concludes wrote events report counted (contain m report done) := by
  obtain ⟨view, isOk, shows⟩ := runs
  have first : e.Becomes r.1 (e.view.withDatabase wrote.1) [] [] :=
    .of_shows shows (by simp) (by simp) view
  rcases r with ⟨e', fault | a⟩
  · rw [failed e' fault rfl, contain]
    have refused : wrote.2 = false := isOk.symm
    refine ⟨?_, by rw [refused]; rfl⟩
    rw [refused]
    exact first.talk (.log e' _)
  · obtain ⟨e'', done, told⟩ := went e' a rfl
    rw [done, contain]
    have through : wrote.2 = true := isOk.symm
    refine ⟨?_, by rw [through]; rfl⟩
    rw [through]
    exact first.talk told

end Engine

/-! ## Answers -/

namespace Exchange

/-- What is told of a mutation once the store has taken what became of it. -/
def events (p : RetryPolicy) (x : Exchange) : List Event :=
  match x.failure with
  | none => [.itemSynced x.sent.id x.sent.kind.name x.sent.entityId]
  | some (.transient reason) =>
    let error := (Failure.transient reason).message
    let failed : Event := .itemFailed x.sent.id x.failures error
    if p.maxRetries ≤ x.failures && !x.sent.isExhausted then
      [.itemExhausted x.sent.id x.failures (some error), failed]
    else [failed]
  | some (.permanent status reason) =>
    [.itemDeadLettered x.sent.id status (Failure.permanent status reason).message]

end Exchange

namespace Engine

variable {e : Engine}

theorem concludes_confirm (isOpen : e.view.link.isSome = true) {x : Exchange}
    (confirmed : x.failure = none) (report : Report) :
    e.Concludes (x.writeBack e.policy e.view.database) (x.events e.policy) report
      (report.counted e.policy x.sent .confirmed)
      (contain x.sent report (e.confirm x.sent report x.time)) := by
  simp only [Exchange.writeBack, Exchange.events, confirmed]
  refine (runs_dequeue isOpen x.sent.id x.time).concludes x.sent (fun e' fault run => ?_)
    fun e' removed run => ?_
  · rw [confirm, run]
  · rw [confirm, run]
    exact ⟨_, rfl, .tell e' _ rfl⟩

theorem concludes_giveUp (isOpen : e.view.link.isSome = true) {x : Exchange} {status : Option Nat}
    {reason : String} (failed : x.failure = some (.permanent status reason)) (report : Report) :
    e.Concludes (x.writeBack e.policy e.view.database) (x.events e.policy) report
      (report.counted e.policy x.sent (.failed (.permanent status reason)))
      (contain x.sent report
        (e.settleFailure x.sent (.permanent status reason) report x.time)) := by
  simp only [Exchange.writeBack, Exchange.events, failed]
  rw [settleFailure_of_permanent]
  refine (runs_moveToDeadLetters isOpen _ x.time).concludes x.sent (fun e' fault run => ?_)
    fun e' letter run => ?_
  · rw [giveUp, run]
  · rw [giveUp, run]
    exact ⟨_, rfl, .tell e' _ rfl⟩

theorem concludes_transient (isOpen : e.view.link.isSome = true) {x : Exchange} {reason : String}
    (failed : x.failure = some (.transient reason)) (report : Report) :
    e.Concludes (x.writeBack e.policy e.view.database) (x.events e.policy) report
      (report.counted e.policy x.sent (.failed (.transient reason)))
      (contain x.sent report (e.settleFailure x.sent (.transient reason) report x.time)) := by
  have failures : x.failures =
      (x.sent.recordFailure (Failure.transient reason).message).retries := rfl
  simp only [Exchange.writeBack, Exchange.events, failed, failures]
  by_cases limit : e.policy.maxRetries ≤
      (x.sent.recordFailure (Failure.transient reason).message).retries
  · rw [settleFailure_of_limit limit]
    simp only [Mutation.retained, Report.counted, limit, if_true, decide_true, Bool.true_and]
    refine (runs_update isOpen _ x.time).concludes x.sent (fun e' fault run => ?_)
      fun e' found run => ?_
    · simp only [exhaust, run]
    · simp only [exhaust, run]
      have state : (x.sent.recordFailure (Failure.transient reason).message).isExhausted =
          x.sent.isExhausted := rfl
      rw [state]
      -- A mutation that is marked already is not told to be at the limit again.
      cases x.sent.isExhausted with
      | true => exact ⟨_, rfl, .emit e' rfl⟩
      | false => exact ⟨_, rfl, (Becomes.tell e' _ rfl).talk (.emit _ rfl)⟩
  · rw [settleFailure_of_below limit]
    simp only [Mutation.retained, Report.counted, limit, if_false, decide_false, Bool.false_and,
      Bool.false_eq_true]
    refine (runs_update isOpen _ x.time).concludes x.sent (fun e' fault run => ?_)
      fun e' found run => ?_
    · rw [retryLater, run]
    · rw [retryLater, run]
      exact ⟨_, rfl, .tell e' _ rfl⟩

theorem concludes_reply (isOpen : e.view.link.isSome = true) {x : Exchange} {rest : List Mutation}
    {report : Report} (waits : e.pass = some ⟨x.sent, rest, report⟩) :
    ∃ r, e.answer x.reply x.time = r.1.continuePass rest r.2 x.time ∧
      (e.record (.answered x.sent x.reply)).Concludes (x.writeBack e.policy e.view.database)
        (x.events e.policy) report (report.counted e.policy x.sent x.reply) r := by
  have heard : (e.record (.answered x.sent x.reply)).view = e.view := view_record_of_talk e rfl
  have isOpen' : (e.record (.answered x.sent x.reply)).view.link.isSome = true := heard ▸ isOpen
  simp only [answer, waits]
  rw [← heard]
  rcases failed : x.failure with _ | reason | ⟨status, reason⟩
  · have confirmed : x.reply = .confirmed := by rw [Exchange.reply, failed]
    rw [confirmed] at isOpen' ⊢
    exact ⟨_, rfl, concludes_confirm isOpen' failed report⟩
  · have refused : x.reply = .failed (.transient reason) := by rw [Exchange.reply, failed]
    rw [refused] at isOpen' ⊢
    exact ⟨_, rfl, concludes_transient isOpen' failed report⟩
  · have refused : x.reply = .failed (.permanent status reason) := by rw [Exchange.reply, failed]
    rw [refused] at isOpen' ⊢
    exact ⟨_, rfl, concludes_giveUp isOpen' failed report⟩

/-- The answer to an exchange does to the store what its write-back does, and the pass goes on. -/
theorem answer_writesBack (isOpen : e.view.link.isSome = true) {x : Exchange}
    {rest : List Mutation} {report : Report} (waits : e.view.pass = some ⟨x.sent, rest, report⟩) :
    ∃ e', e.answer x.reply x.time = e'.continuePass rest
        (if (x.writeBack e.policy e.view.database).2 then report.counted e.policy x.sent x.reply
          else report) x.time ∧
      e.Becomes e' (e.view.withDatabase (x.writeBack e.policy e.view.database).1)
        (if (x.writeBack e.policy e.view.database).2 then (x.events e.policy).map .emitted else [])
        [.answered x.sent x.reply] := by
  have heard : e.Becomes (e.record (.answered x.sent x.reply)) e.view []
      [.answered x.sent x.reply] := by
    have pass : (Effect.answered x.sent x.reply).topic = .pass := rfl
    refine ⟨view_record_of_talk e rfl, ?_, ?_⟩
    · rw [about_record, if_neg (by simp [pass])]
    · rw [about_record, if_pos pass]
  obtain ⟨r, run, becomes, counted⟩ := concludes_reply isOpen waits
  rw [heard.view] at becomes
  exact ⟨r.1, by rw [run, counted], heard.trans becomes⟩

/-! ## Passes -/

theorem becomes_finishPass (isOpen : e.view.link.isSome = true) (report : Report) (now : Instant) :
    ∃ e', e.finishPass report now = (e', some (.finished report)) ∧
      e.Becomes e' { e.view with pass := none } []
        [.emitted (.statusChanged .synced now)] := by
  have published : e.Becomes
      ((e.log (.info ("✅ 同步队列处理完成: " ++ report.summary))).publish .synced now) e.view []
      [.emitted (.statusChanged .synced now)] :=
    (Becomes.log e _).talk (.publish _ _ now rfl)
  have closed : ∀ e₁ : Engine, e.Becomes e₁ e.view [] [.emitted (.statusChanged .synced now)] →
      e.Becomes { e₁ with pass := none } { e.view with pass := none } []
        [.emitted (.statusChanged .synced now)] := fun e₁ becomes =>
    ⟨by rw [view_setPass, becomes.view], becomes.fates, becomes.passed⟩
  refine ⟨_, rfl, closed _ ?_⟩
  split
  · -- The closing statistics are read in debug mode only, and reading changes nothing.
    have read : Shows [] _ (((e.log (.info ("✅ 同步队列处理完成: " ++ report.summary))).publish
        .synced now).logStats now) := (adds_logStats _ now).told
    exact published.talk (.of_shows read (by simp) (by simp)
      (logStats_view (published.view ▸ isOpen) now))
  · exact published

theorem becomes_startPass (isOpen : e.view.link.isSome = true)
    (online : e.view.monitor.online = true) (idle : e.view.pass = none) {queued : List Mutation}
    (listed : e.view.database.mutations = .ok queued) (now : Instant) :
    ∃ e', e.startPass now = e'.continuePass queued .empty now ∧
      e.Becomes e' e.view [] [.emitted (.statusChanged .syncing now)] := by
  have reached : e.isOnline = true := online
  have free : e.isProcessing = false := isProcessing_eq_false_iff.mpr idle
  have begun : e.Becomes ((e.log (.info "🔄 开始处理同步队列")).publish .syncing now) e.view []
      [.emitted (.statusChanged .syncing now)] :=
    (Becomes.log e _).talk (.publish _ _ now rfl)
  obtain ⟨e', run, view⟩ := query_of_open (begun.view ▸ isOpen) now Database.mutations
  have looked : Adds [] _ e' := (adds_query _ now Database.mutations).of_run run
  rw [begun.view, listed] at run
  refine ⟨e', ?_, begun.talk (.of_shows looked.told (by simp) (by simp) view)⟩
  simp only [startPass, reached, free, Bool.not_true, Bool.false_eq_true, if_false, run]

end Engine

/-- The view after a pass that has sent some mutations and left a database. -/
def View.afterPass (v : View) (db : Database) (sent : List Mutation) : View :=
  { v with database := db, pass := none, deliveries := v.deliveries ++ sent }

theorem View.afterPass_cons (v : View) (waits : Option Pass) (m : Mutation) (db after : Database)
    (rest : List Mutation) :
    (({ v with pass := waits, deliveries := v.deliveries ++ [m] } : View).withDatabase db).afterPass
      after rest = v.afterPass after (m :: rest) := by
  have deliveries : v.deliveries ++ m :: rest = v.deliveries ++ [m] ++ rest :=
    List.append_cons _ _ _
  rw [afterPass, afterPass, deliveries]
  rfl

/-- A report after some more attempts, of which some came to be counted further. -/
def Report.through (r : Report) (p : RetryPolicy) (attempts counted : List Exchange) : Report :=
  { r.after p counted with attempted := r.attempted + attempts.length }

namespace Exchange

/-- What a pass shows of its stages from one attempt on. -/
def stages (xs : List Exchange) (now : Instant) : List Effect :=
  xs.flatMap (fun x => [.sent x.sent, .answered x.sent x.reply]) ++
    [.emitted (.statusChanged .synced ((xs.map (·.time)).getLastD now))]

theorem stages_cons (x : Exchange) (xs : List Exchange) (now : Instant) :
    stages (x :: xs) now = .sent x.sent :: .answered x.sent x.reply :: stages xs x.time := by
  rw [stages, List.map_cons, List.getLastD_cons, List.flatMap_cons, stages]
  rfl

theorem counted_attempted (r : Report) (p : RetryPolicy) (x : Exchange) :
    (r.counted p x.sent x.reply).attempted = r.attempted := by
  rw [counted_eq]
  cases x.fate p <;> rfl

/-- What is told of the fates of some mutations. -/
def told (p : RetryPolicy) (xs : List Exchange) : List Effect :=
  (xs.flatMap (·.events p)).map .emitted

theorem told_append (p : RetryPolicy) (xs ys : List Exchange) :
    told p (xs ++ ys) = told p xs ++ told p ys := by
  rw [told, List.flatMap_append, List.map_append, told, told]

theorem told_singleton (p : RetryPolicy) (x : Exchange) :
    told p [x] = (x.events p).map .emitted := by
  rw [told, List.flatMap_singleton]

/-- The exchanges that are taken begin with the first one, unless that is refused. -/
theorem taken_cons (p : RetryPolicy) (x : Exchange) (xs : List Exchange) (db : Database) :
    taken p (x :: xs) db =
      (if (x.writeBack p db).2 then [x] else []) ++ taken p xs (x.writeBack p db).1 := by
  rw [taken]
  split <;> rfl

end Exchange

theorem Report.through_cons (r : Report) (p : RetryPolicy) (x : Exchange) (xs tried : List Exchange)
    (wrote : Bool) :
    Report.through
        (if wrote then Report.counted { r with attempted := r.attempted + 1 } p x.sent x.reply
          else { r with attempted := r.attempted + 1 }) p xs tried =
      r.through p (x :: xs) ((if wrote then [x] else []) ++ tried) := by
  cases wrote with
  | true =>
    simp only [through, if_true, Exchange.counted_after, Exchange.counted_attempted,
      List.singleton_append, List.length_cons, Nat.add_assoc, Nat.add_comm 1]
  | false =>
    simp [through, after, Nat.add_assoc, Nat.add_comm 1]

/-- Whatever the store refuses, a pass goes through all of its exchanges. -/
theorem pass_through {p : RetryPolicy} {xs : List Exchange} {e : Engine} {report : Report}
    {now : Instant} (isOpen : e.view.link.isSome = true) (policy : e.view.policy = p)
    (alone : ∀ x ∈ xs, x.arrivals = []) :
    ∃ e', xs.foldl (fun state x => state.1.exchange x)
        (e.continuePass (xs.map (·.sent)) report now) =
          (e', some (.finished
            (report.through p xs (Exchange.taken p xs e.view.database)))) ∧
      e.Becomes e'
        (e.view.afterPass (Exchange.writtenBack p xs e.view.database) (xs.map (·.sent)))
        (Exchange.told p (Exchange.taken p xs e.view.database)) (Exchange.stages xs now) := by
  induction xs generalizing e report now with
  | nil =>
    obtain ⟨e', run, becomes⟩ := Engine.becomes_finishPass isOpen report now
    refine ⟨e', run, ?_⟩
    rw [List.map_nil, View.afterPass, List.append_nil]
    exact becomes
  | cons x xs ih =>
    -- The mutation is sent, its answer is written back, and the rest of the pass follows.
    let waits : Pass :=
      ⟨x.sent, xs.map (·.sent), { report with attempted := report.attempted + 1 }⟩
    have sending : e.Becomes { e.send x.sent with pass := some waits }
        { e.view with pass := some waits, deliveries := e.view.deliveries ++ [x.sent] } []
        [.sent x.sent] := by
      obtain ⟨view, fates, passed⟩ := Engine.Becomes.send e x.sent
      exact ⟨by rw [Engine.view_setPass, view], fates, passed⟩
    generalize asks : ({ e.send x.sent with pass := _ } : Engine) = e₁ at sending
    have begun : (e.continuePass ((x :: xs).map (·.sent)) report now).1.exchange x =
        e₁.answer x.reply x.time := by
      rw [Engine.exchange, alone x List.mem_cons_self, ← asks]
      rfl
    have policy₁ : e₁.policy = p := (congrArg View.policy sending.view).trans policy
    obtain ⟨e₂, run, became⟩ := Engine.answer_writesBack (e := e₁) (x := x)
      (by rw [sending.view]; exact isOpen) (by rw [sending.view])
    rw [policy₁, show e₁.view.database = e.view.database by rw [sending.view]] at run became
    have view₂ := became.view.trans (congrArg (View.withDatabase · _) sending.view)
    obtain ⟨e', rest, becomes⟩ := @ih e₂ _ x.time
      (by rw [view₂]; exact isOpen) (by rw [view₂]; exact policy)
      fun y member => alone y (List.mem_cons_of_mem _ member)
    rw [view₂] at rest becomes
    have all := (sending.trans became).trans becomes
    refine ⟨e', ?_, all.view.trans ?_, all.fates.trans ?_, all.passed.trans ?_⟩
    · rw [List.foldl_cons, begun, run, rest, Report.through_cons, Exchange.taken_cons]
      rfl
    · exact View.afterPass_cons _ _ _ _ _ _
    · rw [Exchange.taken_cons, Exchange.told_append]
      congr 2
      split
      · rw [Exchange.told_singleton, List.nil_append]
      · rfl
    · rw [Exchange.stages_cons]
      rfl

/-- A whole pass, with what it writes and what it shows. -/
theorem wholePass_through {xs : List Exchange} {e : Engine} (isOpen : e.view.link.isSome = true)
    (online : e.view.monitor.online = true) (idle : e.view.pass = none)
    (listed : e.view.database.mutations = .ok (xs.map (·.sent)))
    (alone : ∀ x ∈ xs, x.arrivals = []) (now : Instant) :
    ∃ e', e.wholePass now xs = (e', some (.finished
        (Report.empty.through e.policy xs (Exchange.taken e.policy xs e.view.database)))) ∧
      e.Becomes e'
        (e.view.afterPass (Exchange.writtenBack e.policy xs e.view.database) (xs.map (·.sent)))
        (Exchange.told e.policy (Exchange.taken e.policy xs e.view.database))
        (.emitted (.statusChanged .syncing now) :: Exchange.stages xs now) := by
  obtain ⟨e₁, begun, became⟩ := Engine.becomes_startPass isOpen online idle listed now
  obtain ⟨e', run, becomes⟩ := @pass_through e.policy xs e₁ .empty now
    (became.view ▸ isOpen) (congrArg View.policy became.view) alone
  rw [became.view] at run becomes
  exact ⟨e', by rw [Engine.wholePass, begun, run], became.trans becomes⟩

end Outbox
