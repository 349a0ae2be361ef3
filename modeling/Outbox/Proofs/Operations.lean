import Outbox.Proofs.View

/-!
# The operations of a sound engine

While the store is open and its database healthy, no operation fails. Each of them is stated here
once: what it returns, and what the view of the engine is afterwards.
-/
namespace Outbox

open Table Time

/-- A mutation after a failure that passes: it is counted, and marked where the limit is
reached. -/
def Mutation.retained (m : Mutation) (p : RetryPolicy) (error : String) : Mutation :=
  let counted := m.recordFailure error
  if p.maxRetries ≤ counted.retries then { counted with state := .exhausted } else counted

@[simp] theorem Mutation.retained_id (m : Mutation) (p : RetryPolicy) (error : String) :
    (m.retained p error).id = m.id := by
  unfold retained
  simp only
  split <;> rfl

theorem Mutation.retained_retries_le (m : Mutation) (p : RetryPolicy) (error : String) :
    (m.retained p error).retries ≤ maxRetryCount := by
  unfold retained
  simp only
  split <;> exact Nat.min_le_left _ _

/-- A report after one more answer. -/
def Report.counted (r : Report) (p : RetryPolicy) (m : Mutation) : Answer → Report
  | .confirmed => { r with succeeded := r.succeeded + 1 }
  | .failed (.transient reason) =>
    if p.maxRetries ≤ (m.recordFailure (Failure.transient reason).message).retries then
      { r with exhausted := r.exhausted + 1 }
    else { r with retried := r.retried + 1 }
  | .failed (.permanent _ _) => { r with deadLettered := r.deadLettered + 1 }
  | .panicked => r

/-- The view after an answer was put into effect in the store. -/
def View.settled (v : View) (m : Mutation) (now : Instant) : Answer → View
  | .confirmed => v.withQueue (without m.id v.queueRows)
  | .failed (.transient reason) =>
    v.withQueue (replaced [6, 7, 8] m.id
      (m.retained v.policy (Failure.transient reason).message).toRow v.queueRows)
  | .failed (.permanent status reason) =>
    v.withDatabase
      (v.database.buried ⟨m.recordFailure (Failure.permanent status reason).message, now⟩)
  | .panicked => v

theorem View.Sound.settled {v : View} (s : v.Sound) (m : Mutation) (now : Instant) (a : Answer) :
    (v.settled m now a).Sound := by
  rcases a with _ | ⟨_ | _⟩ | _
  · exact s.withQueue _
  · exact s.withQueue _
  · exact s.withDatabase (s.healthy.buried _)
  · exact s

/-- An answer takes effect in the database only. -/
theorem View.settled_eq (v : View) (m : Mutation) (now : Instant) (a : Answer) :
    v.settled m now a = v.withDatabase (v.settled m now a).database := by
  rcases a with _ | ⟨_ | _⟩ | _ <;> rfl

@[simp] theorem View.settled_link (v : View) (m : Mutation) (now : Instant) (a : Answer) :
    (v.settled m now a).link = v.link := by rw [settled_eq, withDatabase]

@[simp] theorem View.settled_policy (v : View) (m : Mutation) (now : Instant) (a : Answer) :
    (v.settled m now a).policy = v.policy := by rw [settled_eq, withDatabase]

@[simp] theorem View.settled_monitor (v : View) (m : Mutation) (now : Instant) (a : Answer) :
    (v.settled m now a).monitor = v.monitor := by rw [settled_eq, withDatabase]

@[simp] theorem View.settled_connectivity (v : View) (m : Mutation) (now : Instant) (a : Answer) :
    (v.settled m now a).connectivity = v.connectivity := by rw [settled_eq, withDatabase]

@[simp] theorem View.settled_tasks (v : View) (m : Mutation) (now : Instant) (a : Answer) :
    (v.settled m now a).tasks = v.tasks := by rw [settled_eq, withDatabase]

namespace Engine

variable {e : Engine}

/-! ## The queue -/

theorem enqueue_yields (s : e.view.Sound) {m : Mutation} (now : Instant)
    (fresh : .text m.id ∉ keysOf e.view.queueRows) :
    ∃ e', e.enqueue m now = (e', .ok m.id) ∧
      e'.view = (e.view.withQueue (added e.view.queueRows m.toRow)).told := by
  obtain ⟨e', run, view⟩ := access_yields s now fun db => db.enqueue m
  simp only [s.healthy.enqueue fresh] at run view
  simp only [enqueue, run]
  refine ⟨_, rfl, ?_⟩
  rw [view_afterEnqueue, view_log, view]
  rfl

theorem mutate_yields (s : e.view.Sound) {m : Mutation} (now : Instant)
    (fresh : .text m.id ∉ keysOf e.view.queueRows) :
    ∃ e', e.mutate m now = (e', .ok m.id) ∧
      e'.view = ((e.view.withDatabase (e.view.database.withRows (.collection m.kind)
        (Database.rowsAfter m now (e.view.database.rowsOf (.collection m.kind))))).withQueue
          (added e.view.queueRows m.toRow)).told := by
  obtain ⟨e', run, view⟩ := access_yields s now fun db => db.mutate m now
  simp only [s.healthy.mutate now fresh] at run view
  simp only [mutate, run]
  refine ⟨_, rfl, ?_⟩
  rw [view_afterEnqueue, view_log, view]
  rfl

theorem mutate_of_taken (s : e.view.Sound) {m : Mutation} (now : Instant)
    (taken : .text m.id ∈ keysOf e.view.queueRows) :
    ∃ e' fault, e.mutate m now = (e', .error fault) ∧ e'.view = e.view := by
  obtain ⟨fault, refused⟩ := s.healthy.mutate_of_taken now taken
  obtain ⟨e', run, view⟩ := access_yields s now fun db => db.mutate m now
  simp only [refused] at run view
  simp only [mutate, run]
  exact ⟨_, fault, rfl, view⟩

theorem dequeue_yields (s : e.view.Sound) (id : String) (now : Instant) :
    ∃ e', e.dequeue id now = (e', .ok (e.view.queueRows.any (·.hasKey id))) ∧
      e'.view = e.view.withQueue (without id e.view.queueRows) := by
  obtain ⟨e', run, view⟩ := access_yields s now fun db => db.dequeue id
  simp only [s.healthy.dequeue] at run view
  simp only [dequeue, run]
  refine ⟨_, rfl, ?_⟩
  split
  · rw [view_emit, view]
    rfl
  · exact view

theorem purge_yields (s : e.view.Sound) (id : String) (now : Instant) :
    ∃ e', e.purge id now = (e', .ok (e.view.queueRows.any (·.hasKey id))) ∧
      e'.view = e.view.withQueue (without id e.view.queueRows) := by
  obtain ⟨e', run, view⟩ := dequeue_yields s id now
  cases found : e.view.queueRows.any (·.hasKey id) with
  | true =>
    simp only [purge, run, found]
    exact ⟨_, rfl, (view_log _ _).trans view⟩
  | false =>
    simp only [purge, run, found]
    exact ⟨_, rfl, view⟩

theorem clear_yields (s : e.view.Sound) (now : Instant) :
    ∃ e', e.clear now = (e', .ok e.view.queueRows.length) ∧ e'.view = e.view.withQueue [] := by
  obtain ⟨e', run, view⟩ := change_yields s now _ s.healthy.clearMutations
  simp only [clear, run]
  refine ⟨_, rfl, ?_⟩
  rw [view_emit, view_log, view]
  rfl

theorem update_yields (s : e.view.Sound) (m : Mutation) (now : Instant) :
    ∃ e', e.update m now = (e', .ok (e.view.queueRows.any (·.hasKey m.id))) ∧
      e'.view = e.view.withQueue (replaced [6, 7, 8] m.id m.toRow e.view.queueRows) :=
  change_yields s now (fun db => db.updateRetryState m) (s.healthy.updateRetryState m)

/-! ## Dead letters -/

theorem moveToDeadLetters_yields (s : e.view.Sound) (m : Mutation) (now : Instant) :
    ∃ e', e.moveToDeadLetters m now = (e', .ok ⟨m, now⟩) ∧
      e'.view = e.view.withDatabase (e.view.database.buried ⟨m, now⟩) := by
  obtain ⟨e', run, view⟩ := access_yields s now fun db => db.bury ⟨m, now⟩
  simp only [s.healthy.bury] at run view
  simp only [moveToDeadLetters, run]
  refine ⟨_, rfl, ?_⟩
  rw [view_emit, view_log, view]

theorem deadLetter_yields (s : e.view.Sound) {id : String} {m : Mutation} (now : Instant)
    (found : e.view.database.mutation? id = .ok (some m)) :
    ∃ e', e.deadLetter id now = (e', .ok (some ⟨m, now⟩)) ∧
      e'.view = e.view.withDatabase (e.view.database.buried ⟨m, now⟩) := by
  -- The mutation is looked up first, which leaves the store as it was.
  obtain ⟨e₁, looked, same⟩ := query_yields s now fun db => db.mutation? id
  obtain ⟨e', run, view⟩ := moveToDeadLetters_yields (same ▸ s) m now
  rw [found] at looked
  rw [same] at view
  simp only [deadLetter, looked, run]
  exact ⟨_, rfl, view⟩

theorem deadLetter_of_not_found (s : e.view.Sound) {id : String} (now : Instant)
    (absent : ∀ m, e.view.database.mutation? id ≠ .ok (some m)) :
    ∃ e' result, e.deadLetter id now = (e', result) ∧ (∀ l, result ≠ .ok (some l)) ∧
      e'.view = e.view := by
  obtain ⟨e', looked, same⟩ := query_yields s now fun db => db.mutation? id
  cases found : e.view.database.mutation? id with
  | error fault =>
    rw [found] at looked
    simp only [deadLetter, looked]
    exact ⟨_, _, rfl, by simp, same⟩
  | ok m =>
    cases m with
    | none =>
      rw [found] at looked
      simp only [deadLetter, looked]
      exact ⟨_, _, rfl, by simp, same⟩
    | some m => exact absurd found (absent m)

/-- A dead letter that is read, and whose id is not queued, is queued anew. -/
theorem requeue_yields (s : e.view.Sound) {id : String} {r : Row} {l : DeadLetter}
    (found : e.view.letterRows.find? (·.hasKey id) = some r) (read : DeadLetter.ofRow r = .ok l)
    (untaken : .text l.mutation.id ∉ keysOf e.view.queueRows) (now : Instant) :
    ∃ e', e.requeue id now = (e', .ok (some (l.mutation.renewed now))) ∧
      e'.view =
        (e.view.withDatabase (e.view.database.revived id (l.mutation.renewed now))).told := by
  obtain ⟨e', run, view⟩ := access_yields s now fun db => db.revive id now
  rw [s.healthy.revive found read untaken] at run view
  simp only [requeue, run]
  refine ⟨_, rfl, ?_⟩
  rw [view_afterEnqueue, view_log, view]

/-- A dead letter is queued anew, or nothing happens. -/
theorem requeue_cases (s : e.view.Sound) (id : String) (now : Instant) :
    (∃ e' r l, e.view.letterRows.find? (·.hasKey id) = some r ∧ DeadLetter.ofRow r = .ok l ∧
      .text l.mutation.id ∉ keysOf e.view.queueRows ∧
      e.requeue id now = (e', .ok (some (l.mutation.renewed now))) ∧
      e'.view =
        (e.view.withDatabase (e.view.database.revived id (l.mutation.renewed now))).told) ∨
    ∃ e' result, e.requeue id now = (e', result) ∧ (∀ m, result ≠ .ok (some m)) ∧
      e'.view = e.view := by
  obtain ⟨e', run, view⟩ := access_yields s now fun db => db.revive id now
  rcases s.healthy.revive_cases id now with ⟨r, l, found, read, fresh, done⟩ | ⟨result, done, none⟩
  · rw [done] at run view
    simp only [requeue, run]
    refine .inl ⟨_, r, l, found, read, fresh, rfl, ?_⟩
    rw [view_afterEnqueue, view_log, view]
  · rw [done] at run view
    cases result with
    | error fault =>
      simp only [requeue, run]
      exact .inr ⟨_, _, rfl, by simp, view⟩
    | ok found =>
      cases found with
      | none =>
        simp only [requeue, run]
        exact .inr ⟨_, _, rfl, by simp, view⟩
      | some x => exact absurd rfl (none x)

theorem purgeDeadLetter_yields (s : e.view.Sound) (id : String) (now : Instant) :
    ∃ e', e.purgeDeadLetter id now = (e', .ok (e.view.letterRows.any (·.hasKey id))) ∧
      e'.view = e.view.withLetters (without id e.view.letterRows) := by
  obtain ⟨e', run, view⟩ := change_yields s now (fun db => db.deleteDeadLetter id)
    (s.healthy.deleteDeadLetter id)
  cases found : e.view.letterRows.any (·.hasKey id) with
  | true =>
    rw [View.letterRows] at found
    simp only [purgeDeadLetter, run, found]
    exact ⟨_, rfl, (view_log _ _).trans view⟩
  | false =>
    rw [View.letterRows] at found
    simp only [purgeDeadLetter, run, found]
    exact ⟨_, rfl, view⟩

/-! ## Answers -/

theorem confirm_yields (s : e.view.Sound) (m : Mutation) (report : Report) (now : Instant) :
    ∃ e', e.confirm m report now = (e', .ok { report with succeeded := report.succeeded + 1 }) ∧
      e'.view = e.view.settled m now .confirmed := by
  obtain ⟨e', run, view⟩ := dequeue_yields s m.id now
  simp only [confirm, run]
  refine ⟨_, rfl, ?_⟩
  rw [view_emit, view_log, view]
  rfl

theorem retryLater_yields (s : e.view.Sound) (m : Mutation) (error : String) (report : Report)
    (now : Instant) :
    ∃ e', e.retryLater m error report now =
        (e', .ok { report with retried := report.retried + 1 }) ∧
      e'.view = e.view.withQueue (replaced [6, 7, 8] m.id m.toRow e.view.queueRows) := by
  obtain ⟨e', run, view⟩ := update_yields s m now
  simp only [retryLater, run]
  refine ⟨_, rfl, ?_⟩
  rw [view_emit, view_log, view]

theorem exhaust_yields (s : e.view.Sound) (m : Mutation) (error : String) (report : Report)
    (now : Instant) :
    ∃ e', e.exhaust m error report now =
        (e', .ok { report with exhausted := report.exhausted + 1 }) ∧
      e'.view = e.view.withQueue
        (replaced [6, 7, 8] m.id { m with state := .exhausted }.toRow e.view.queueRows) := by
  obtain ⟨e', run, view⟩ := update_yields s { m with state := .exhausted } now
  simp only [exhaust, run]
  refine ⟨_, rfl, ?_⟩
  rw [view_emit, ← view]
  split
  · rfl
  · rw [view_emit, view_log]

theorem giveUp_yields (s : e.view.Sound) (m : Mutation) (failure : Failure) (report : Report)
    (now : Instant) :
    ∃ e', e.giveUp m failure report now =
        (e', .ok { report with deadLettered := report.deadLettered + 1 }) ∧
      e'.view = e.view.withDatabase (e.view.database.buried ⟨m, now⟩) := by
  obtain ⟨e', run, view⟩ := moveToDeadLetters_yields s m now
  simp only [giveUp, run]
  refine ⟨_, rfl, ?_⟩
  rw [view_emit, view_log, view]

/-! The policy decides with the failure counted in. -/

theorem settleFailure_of_limit {m : Mutation} {reason : String}
    (limit : e.policy.maxRetries ≤ (m.recordFailure (Failure.transient reason).message).retries)
    (report : Report) (now : Instant) :
    e.settleFailure m (.transient reason) report now =
      e.exhaust (m.recordFailure (Failure.transient reason).message)
        (Failure.transient reason).message report now := by
  simp only [settleFailure, RetryPolicy.decide, Failure.isRetryable, limit, Bool.not_true,
    Bool.false_eq_true, if_false, if_true]

theorem settleFailure_of_below {m : Mutation} {reason : String}
    (below : ¬ e.policy.maxRetries ≤ (m.recordFailure (Failure.transient reason).message).retries)
    (report : Report) (now : Instant) :
    e.settleFailure m (.transient reason) report now =
      e.retryLater (m.recordFailure (Failure.transient reason).message)
        (Failure.transient reason).message report now := by
  simp only [settleFailure, RetryPolicy.decide, Failure.isRetryable, below, Bool.not_true,
    Bool.false_eq_true, if_false]

theorem settleFailure_of_permanent (e : Engine) (m : Mutation) (status : Option Nat)
    (reason : String) (report : Report) (now : Instant) :
    e.settleFailure m (.permanent status reason) report now =
      e.giveUp (m.recordFailure (Failure.permanent status reason).message)
        (.permanent status reason) report now := rfl

theorem settleFailure_yields (s : e.view.Sound) (m : Mutation) (failure : Failure)
    (report : Report) (now : Instant) :
    ∃ e', e.settleFailure m failure report now =
        (e', .ok (report.counted e.view.policy m (.failed failure))) ∧
      e'.view = e.view.settled m now (.failed failure) := by
  cases failure with
  | permanent status reason => exact giveUp_yields s _ _ report now
  | transient reason =>
    by_cases limit : e.view.policy.maxRetries ≤
        (m.recordFailure (Failure.transient reason).message).retries
    · obtain ⟨e', run, view⟩ := exhaust_yields s
        (m.recordFailure (Failure.transient reason).message) (Failure.transient reason).message
        report now
      refine ⟨e', ?_, ?_⟩
      · rw [settleFailure_of_limit limit, run, Report.counted, if_pos limit]
      · simp only [View.settled, Mutation.retained, limit, if_true, view]
        rfl
    · obtain ⟨e', run, view⟩ := retryLater_yields s
        (m.recordFailure (Failure.transient reason).message) (Failure.transient reason).message
        report now
      refine ⟨e', ?_, ?_⟩
      · rw [settleFailure_of_below limit, run, Report.counted, if_neg limit]
      · simp only [View.settled, Mutation.retained, limit, if_false, view]
        rfl

/-! ## Passes -/

theorem isProcessing_eq_false_iff : e.isProcessing = false ↔ e.view.pass = none := by
  rw [isProcessing, Option.isSome_eq_false_iff, Option.isNone_iff_eq_none]
  rfl

theorem logStats_view (isOpen : e.view.link.isSome = true) (now : Instant) :
    (e.logStats now).view = e.view := by
  obtain ⟨e', run, view⟩ := query_of_open isOpen now Database.queueStats
  unfold logStats
  rw [run]
  cases Database.queueStats e.view.database <;> exact (view_log _ _).trans view

theorem finishPass_yields (isOpen : e.view.link.isSome = true) (report : Report) (now : Instant) :
    ∃ e', e.finishPass report now = (e', some (.finished report)) ∧
      e'.view = { e.view with pass := none } := by
  refine ⟨_, rfl, ?_⟩
  rw [view_setPass]
  -- The closing statistics are read in debug mode only, and reading changes nothing.
  have quiet : ((e.log (.info ("✅ 同步队列处理完成: " ++ report.summary))).publish .synced now).view =
      e.view := by rw [view_publish, view_log]
  split
  · rw [logStats_view (quiet ▸ isOpen), quiet]
  · rw [quiet]

theorem continuePass_yields (isOpen : e.view.link.isSome = true) (rest : List Mutation)
    (report : Report) (now : Instant) :
    ∃ e', e.continuePass rest report now = (e', outcomeAfter rest report) ∧
      e'.view = e.view.continued rest report := by
  cases rest with
  | nil => exact finishPass_yields isOpen report now
  | cons m rest =>
    refine ⟨_, rfl, ?_⟩
    rw [view_setPass, view_send]
    rfl

theorem startPass_of_offline (offline : e.view.monitor.online = false) (now : Instant) :
    e.startPass now = (e, some (.skipped .offline)) := by
  have unreached : e.isOnline = false := offline
  simp only [startPass, unreached, Bool.not_false, if_true]

theorem startPass_of_running (online : e.view.monitor.online = true) {p : Pass}
    (running : e.view.pass = some p) (now : Instant) :
    e.startPass now = (e, some (.skipped .alreadyRunning)) := by
  have reached : e.isOnline = true := online
  have busy : e.isProcessing = true := by
    rw [isProcessing, show e.pass = some p from running]
    rfl
  simp only [startPass, reached, busy, Bool.not_true, Bool.false_eq_true, if_false, if_true]

/-- A pass begins with the queue as it is listed. -/
theorem startPass_yields (s : e.view.Sound) (online : e.view.monitor.online = true)
    (idle : e.view.pass = none) {queued : List Mutation}
    (listed : e.view.database.mutations = .ok queued) (now : Instant) :
    ∃ e', e.startPass now = (e', outcomeAfter queued .empty) ∧
      e'.view = e.view.continued queued .empty := by
  have reached : e.isOnline = true := online
  have free : e.isProcessing = false := isProcessing_eq_false_iff.mpr idle
  have quiet : ((e.log (.info "🔄 开始处理同步队列")).publish .syncing now).view = e.view := by
    rw [view_publish, view_log]
  obtain ⟨e₁, run, same⟩ := query_yields (quiet ▸ s) now Database.mutations
  rw [quiet, listed] at run
  rw [quiet] at same
  obtain ⟨e', run', view⟩ := continuePass_yields (same ▸ s.isOpen) queued .empty now
  refine ⟨e', ?_, same ▸ view⟩
  simp only [startPass, reached, free, Bool.not_true, Bool.false_eq_true, if_false, run, run']

theorem startPass_of_unlisted (s : e.view.Sound) (online : e.view.monitor.online = true)
    (idle : e.view.pass = none) {fault : Error}
    (unlisted : e.view.database.mutations = .error fault) (now : Instant) :
    ∃ e', e.startPass now = (e', some (.failed fault)) ∧ e'.view = e.view := by
  have reached : e.isOnline = true := online
  have free : e.isProcessing = false := isProcessing_eq_false_iff.mpr idle
  have quiet : ((e.log (.info "🔄 开始处理同步队列")).publish .syncing now).view = e.view := by
    rw [view_publish, view_log]
  obtain ⟨e₁, run, same⟩ := query_yields (quiet ▸ s) now Database.mutations
  rw [quiet, unlisted] at run
  rw [quiet] at same
  simp only [startPass, reached, free, Bool.not_true, Bool.false_eq_true, if_false, run]
  refine ⟨_, rfl, ?_⟩
  rw [view_publish, view_log, same]

/-- The ways in which a pass is not made, and the way in which one begins. -/
theorem startPass_cases (s : e.view.Sound) (now : Instant) :
    (∃ reason, e.startPass now = (e, some (.skipped reason))) ∨
    (∃ e' fault, e.startPass now = (e', some (.failed fault)) ∧ e'.view = e.view) ∨
    ∃ e' queued, e.view.pass = none ∧ e.view.database.mutations = .ok queued ∧
      e.startPass now = (e', outcomeAfter queued .empty) ∧
      e'.view = e.view.continued queued .empty := by
  cases online : e.view.monitor.online with
  | false => exact .inl ⟨_, startPass_of_offline online now⟩
  | true =>
    -- The guard, then the listing.
    cases waits : e.view.pass with
    | some p => exact .inl ⟨_, startPass_of_running online waits now⟩
    | none =>
      cases listed : e.view.database.mutations with
      | error fault =>
        obtain ⟨e', run, view⟩ := startPass_of_unlisted s online waits listed now
        exact .inr (.inl ⟨e', fault, run, view⟩)
      | ok queued =>
        obtain ⟨e', run, view⟩ := startPass_yields s online waits listed now
        exact .inr (.inr ⟨e', queued, rfl, rfl, run, view⟩)

theorem answer_of_panicked {p : Pass} (waits : e.view.pass = some p) (now : Instant) :
    ∃ e', e.answer .panicked now = (e', some .panicked) ∧
      e'.view = { e.view with pass := none } := by
  simp only [answer, show e.pass = some p from waits]
  refine ⟨_, rfl, ?_⟩
  rw [view_setPass, view_record_of_talk _ rfl]

/-- An orderly answer is put into effect, and the pass goes on. -/
theorem answer_yields (s : e.view.Sound) {p : Pass} (waits : e.view.pass = some p) {a : Answer}
    (orderly : a ≠ .panicked) (now : Instant) :
    ∃ e', e.answer a now =
        (e', outcomeAfter p.rest (p.report.counted e.view.policy p.current a)) ∧
      e'.view = (e.view.settled p.current now a).continued p.rest
        (p.report.counted e.view.policy p.current a) := by
  -- The trace notes the answer before anything comes of it.
  have heard : (e.record (.answered p.current a)).view = e.view := view_record_of_talk e rfl
  have sound : (e.record (.answered p.current a)).view.Sound := heard ▸ s
  simp only [answer, show e.pass = some p from waits]
  cases a with
  | panicked => exact absurd rfl orderly
  | confirmed =>
    -- The store is in order, so there is no trouble to contain.
    obtain ⟨e₁, run, view⟩ := confirm_yields sound p.current p.report now
    rw [heard] at view
    simp only [run, contain]
    rw [← view]
    exact continuePass_yields (view ▸ s.settled _ _ _).isOpen p.rest _ now
  | failed failure =>
    obtain ⟨e₁, run, view⟩ := settleFailure_yields sound p.current failure p.report now
    rw [heard] at run view
    simp only [run, contain]
    rw [← view]
    exact continuePass_yields (view ▸ s.settled _ _ _).isOpen p.rest _ now

end Engine

end Outbox
