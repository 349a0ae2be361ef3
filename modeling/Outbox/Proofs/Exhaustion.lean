import Outbox.Proofs.ItemEvents

/-!
# Announcing that the retries are used up

A mutation that fails for a while stays queued however often that happens, and only the failure
that reaches the limit is announced as such. Whether the mark is new is read off the copy that the
pass took when it began. That copy has the tally of all failures since the mutation was queued, so
it bears the mark exactly if an earlier failure has reached the limit. Hence the events of failures
for a while are those that the history of the run calls for, one after the other.
-/
namespace Outbox

open Table Time

/-! ## What is to be announced -/

/-- The events of a failure for a while, the latest first, if the mutation has failed some times
since it was queued: the failure is told, and right before that the mark is announced if it is new.
-/
def RetryPolicy.notices (p : RetryPolicy) (id : String) (before : Nat) (error : String) :
    List Event :=
  .itemFailed id (min maxRetryCount (before + 1)) error ::
    if before + 1 = p.maxRetries then [.itemExhausted id p.maxRetries (some error)] else []

/-- The events that an occurrence calls for after some others. -/
def Occurrence.notices (p : RetryPolicy) (earlier : List Occurrence) : Occurrence → List Event
  | .answered m (.failed (.transient reason)) =>
    p.notices m.id (failuresOf m.id earlier).length (Failure.transient reason).message
  | _ => []

/-- The events that the occurrences of a run call for, the latest first. -/
def noticesOf (p : RetryPolicy) : List Occurrence → List Event
  | [] => []
  | d :: past => d.notices p past ++ noticesOf p past

/-- Occurrences that are no answers call for no events. -/
theorem noticesOf_append {p : RetryPolicy} {done : List Occurrence} (past : List Occurrence)
    (silent : ∀ m a, .answered m a ∉ done) : noticesOf p (done ++ past) = noticesOf p past := by
  induction done with
  | nil => rfl
  | cons d done ih =>
    have none : d.notices p (done ++ past) = [] := by
      cases d with
      | answered m a => exact absurd List.mem_cons_self (silent m a)
      | _ => rfl
    rw [List.cons_append, noticesOf, none, List.nil_append]
    exact ih fun m a member => silent m a (List.mem_cons_of_mem _ member)

/-- These are the events of failures for a while among some effects, and each mark that is announced
is followed at once by the failure that made it. -/
structure FailureEvents (events : List Event) (told : List Effect) : Prop where
  notices : told.filterMap Effect.notice? = events
  followed : ∀ later earlier id retries lastError,
    told = later ++ .emitted (.itemExhausted id retries lastError) :: earlier →
      ∃ since error, later = since ++ [.emitted (.itemFailed id retries error)] ∧
        lastError = some error

namespace FailureEvents

variable {events events' : List Event} {told told' : List Effect}

theorem append (last : FailureEvents events' told') (first : FailureEvents events told) :
    FailureEvents (events' ++ events) (told' ++ told) := by
  refine ⟨by rw [List.filterMap_append, last.notices, first.notices], ?_⟩
  intro later earlier id retries lastError cut
  rcases List.append_eq_append_iff.mp cut with ⟨part, rfl, rest⟩ | ⟨part, rfl, rest⟩
  · obtain ⟨since, error, rfl, text⟩ := first.followed _ _ _ _ _ rest
    exact ⟨told' ++ since, error, (List.append_assoc ..).symm, text⟩
  · cases part with
    | nil =>
      -- The failure would have to be among the effects before.
      obtain ⟨since, error, none, -⟩ := first.followed [] _ _ _ _ rest.symm
      exact absurd none (by simp)
    | cons x part =>
      obtain ⟨rfl, -⟩ := List.cons.inj rest
      exact last.followed _ _ _ _ _ rfl

theorem of_silent (silent : ∀ x ∈ told, x.notice? = none) : FailureEvents [] told := by
  refine ⟨List.filterMap_eq_nil_iff.mpr silent, ?_⟩
  rintro later earlier id retries lastError rfl
  cases silent _ (List.mem_append_right _ List.mem_cons_self)

theorem of_other (other : ∀ x ∈ told, x.topic ≠ .fate) : FailureEvents [] told := by
  refine of_silent fun x member => ?_
  cases notice : x.notice? with
  | none => rfl
  | some event =>
    obtain rfl := Effect.eq_emitted_of_notice? notice
    cases event with
    | itemFailed _ _ _ | itemExhausted _ _ _ => exact absurd rfl (other _ member)
    | _ => cases notice

theorem failed (id : String) (retries : Nat) (error : String) :
    FailureEvents [.itemFailed id retries error] [.emitted (.itemFailed id retries error)] := by
  refine ⟨rfl, fun later earlier id' retries' lastError cut => ?_⟩
  have member : .emitted (.itemExhausted id' retries' lastError) ∈
      [Effect.emitted (.itemFailed id retries error)] :=
    cut ▸ List.mem_append_right _ List.mem_cons_self
  simp at member

theorem exhausted (id : String) (retries : Nat) (error : String) :
    FailureEvents [.itemFailed id retries error, .itemExhausted id retries (some error)]
      [.emitted (.itemFailed id retries error),
        .emitted (.itemExhausted id retries (some error))] := by
  refine ⟨rfl, fun later earlier id' retries' lastError cut => ?_⟩
  match later with
  | [] => simp at cut
  | [x] =>
    simp only [List.cons_append, List.nil_append, List.cons.injEq, Effect.emitted.injEq,
      Event.itemExhausted.injEq] at cut
    obtain ⟨rfl, ⟨rfl, rfl, rfl⟩, -⟩ := cut
    exact ⟨[], error, rfl, rfl⟩
  | x :: y :: later =>
    have tooLong := congrArg List.length cut
    simp at tooLong

end FailureEvents

/-! ## Answers -/

namespace Engine

variable {e e' e'' : Engine} {events : List Event}

/-- From the one engine to the other just these events of failures for a while were told. -/
def Emits (events : List Event) (e e' : Engine) : Prop :=
  ∃ told, e'.trace = told ++ e.trace ∧ FailureEvents events told

namespace Emits

theorem refl (e : Engine) : Emits [] e e := ⟨[], rfl, .of_silent (by simp)⟩

theorem quiet {topics : List Topic} (said : Shows topics e e')
    (silent : .fate ∉ .note :: topics) : Emits [] e e' := by
  obtain ⟨told, trace, other⟩ := said.apart silent
  exact ⟨told, trace, .of_other other⟩

theorem trans {events' : List Event} (first : Emits events e e') (last : Emits events' e' e'') :
    Emits (events' ++ events) e e'' := by
  obtain ⟨told, trace, failures⟩ := first
  obtain ⟨later, trace', failures'⟩ := last
  exact ⟨later ++ told, by rw [trace', trace, List.append_assoc], failures'.append failures⟩

theorem after (first : Emits [] e e') (last : Emits events e' e'') : Emits events e e'' := by
  simpa using first.trans last

theorem before (first : Emits events e e') (last : Emits [] e' e'') : Emits events e e'' :=
  first.trans last

end Emits

theorem emits_log (e : Engine) (line : LogLine) : Emits [] e (e.log line) :=
  ⟨[.logged line], rfl, .of_silent (List.forall_mem_singleton.mpr rfl)⟩

/-- A retry state that is written back is no event of its own. -/
theorem update_emits (s : e.view.Sound) (m : Mutation) (now : Instant) :
    ∃ e' found, e.update m now = (e', .ok found) ∧ Emits [] e e' := by
  obtain ⟨e', run, -⟩ := update_yields s m now
  have said : Shows [] e (e.update m now).1 := (e.adds_update m now).told
  rw [run] at said
  exact ⟨e', _, run, .quiet said (by simp)⟩

theorem emits_retryLater (s : e.view.Sound) (m : Mutation) (error : String) (report : Report)
    (now : Instant) :
    Emits [.itemFailed m.id m.retries error] e (e.retryLater m error report now).1 := by
  obtain ⟨e', found, run, written⟩ := update_emits s m now
  simp only [retryLater, run]
  exact (written.after (e'.emits_log _)).after ⟨[_], rfl, .failed m.id m.retries error⟩

theorem emits_exhaust (s : e.view.Sound) {m : Mutation} {error : String}
    (last : m.lastError = some error) (report : Report) (now : Instant) :
    Emits (.itemFailed m.id m.retries error ::
        if m.isExhausted then [] else [.itemExhausted m.id m.retries (some error)]) e
      (e.exhaust m error report now).1 := by
  obtain ⟨e', found, run, written⟩ := update_emits s { m with state := .exhausted } now
  simp only [exhaust, run]
  rw [last]
  split
  · exact written.after ⟨[_], rfl, .failed m.id m.retries error⟩
  · exact (written.after (e'.emits_log _)).after ⟨[_, _], rfl, .exhausted m.id m.retries error⟩

/-- A sound engine tells of a failure for a while what it calls for. -/
theorem emits_settleFailure (s : e.view.Sound) (bound : e.policy.maxRetries ≤ maxRetryCount)
    {m : Mutation} {failures : List String} (kept : m.tally = e.policy.tally failures)
    (reason : String) (report : Report) (now : Instant) :
    Emits (e.policy.notices m.id failures.length (Failure.transient reason).message) e
      (e.settleFailure m (.transient reason) report now).1 := by
  let counted := m.recordFailure (Failure.transient reason).message
  have before : m.retries = min maxRetryCount failures.length := congrArg Tally.retries kept
  have count : counted.retries = min maxRetryCount (failures.length + 1) := by
    change min maxRetryCount (m.retries + 1) = _
    rw [before]
    omega
  -- The copy bears the mark if the failures before have reached the limit.
  have marked : counted.isExhausted = true ↔
      e.policy.maxRetries ≤ min maxRetryCount failures.length := by
    have state : counted.state = e.policy.mark (min maxRetryCount failures.length) :=
      congrArg Tally.state kept
    rw [Mutation.isExhausted, state, beq_iff_eq, RetryPolicy.mark_eq_exhausted_iff]
  rw [RetryPolicy.notices, ← count]
  by_cases reached : e.policy.maxRetries ≤ counted.retries
  · have run : e.settleFailure m (.transient reason) report now =
        e.exhaust counted (Failure.transient reason).message report now :=
      settleFailure_of_limit reached report now
    have emits := emits_exhaust s (m := counted) rfl report now
    rw [run]
    -- At the limit the mark is new, and beyond it the copy has it already.
    by_cases first : failures.length + 1 = e.policy.maxRetries
    · have unmarked : ¬ counted.isExhausted = true := by
        rw [marked]
        omega
      have limit : counted.retries = e.policy.maxRetries := by omega
      rw [if_pos first]
      rw [if_neg unmarked] at emits
      exact limit ▸ emits
    · have bears : counted.isExhausted = true := by
        rw [marked]
        omega
      rw [if_neg first]
      rw [if_pos bears] at emits
      exact emits
  · have run : e.settleFailure m (.transient reason) report now =
        e.retryLater counted (Failure.transient reason).message report now :=
      settleFailure_of_below reached report now
    have below : failures.length + 1 ≠ e.policy.maxRetries := by omega
    rw [run, if_neg below]
    exact emits_retryLater s counted _ report now

/-- Neither a confirmation nor a refusal is a failure for a while. -/
theorem emits_confirm (s : e.view.Sound) (m : Mutation) (report : Report) (now : Instant) :
    Emits [] e (e.confirm m report now).1 := by
  obtain ⟨e', run, -⟩ := dequeue_yields s m.id now
  have removed := (e.adds_dequeue m.id now).told
  rw [run] at removed
  simp only [confirm, run]
  exact ((Emits.quiet removed (by simp)).after (e'.emits_log _)).after
    ⟨[_], rfl, .of_silent (List.forall_mem_singleton.mpr rfl)⟩

theorem emits_giveUp (s : e.view.Sound) (m : Mutation) (failure : Failure) (report : Report)
    (now : Instant) : Emits [] e (e.giveUp m failure report now).1 := by
  obtain ⟨e', run, -⟩ := moveToDeadLetters_yields s m now
  have moved := (e.adds_moveToDeadLetters m now).told
  rw [run] at moved
  simp only [giveUp, run]
  exact ((Emits.quiet moved (by simp)).after (e'.emits_log _)).after
    ⟨[_], rfl, .of_silent (List.forall_mem_singleton.mpr rfl)⟩

/-- A sound engine tells of any failure what it calls for. -/
theorem emits_failure (s : e.view.Sound) (bound : e.policy.maxRetries ≤ maxRetryCount)
    {m : Mutation} {earlier : List Occurrence}
    (copied : m.tally = e.policy.tally (failuresOf m.id earlier)) (failure : Failure)
    (report : Report) (now : Instant) :
    Emits ((Occurrence.answered m (.failed failure)).notices e.policy earlier) e
      (e.settleFailure m failure report now).1 := by
  cases failure with
  | transient reason => exact emits_settleFailure s bound copied reason report now
  | permanent status reason =>
    rw [settleFailure_of_permanent]
    exact emits_giveUp s _ _ report now

/-- An answer calls for no other events than those that come of it. -/
theorem emits_answer (s : e.view.Sound) (bound : e.policy.maxRetries ≤ maxRetryCount) {p : Pass}
    (waits : e.pass = some p) {earlier : List Occurrence}
    (copied : p.current.tally = e.policy.tally (failuresOf p.current.id earlier)) (a : Answer)
    (now : Instant) :
    Emits ((Occurrence.answered p.current a).notices e.policy earlier) e (e.answer a now).1 := by
  have heard : (e.record (.answered p.current a)).view = e.view := view_record_of_talk e rfl
  have sound : (e.record (.answered p.current a)).view.Sound := heard ▸ s
  have began : Emits [] e (e.record (.answered p.current a)) :=
    ⟨[_], rfl, .of_silent (List.forall_mem_singleton.mpr rfl)⟩
  have goesOn (settled : Engine) (report : Report) :
      Emits [] settled (settled.continuePass p.rest report now).1 :=
    .quiet (settled.adds_continuePass p.rest report now).told (by simp)
  simp only [answer, waits]
  cases a with
  | confirmed =>
    obtain ⟨e₁, run, -⟩ := confirm_yields sound p.current p.report now
    have emits := emits_confirm sound p.current p.report now
    simp only [run, contain] at emits ⊢
    exact (began.after emits).before (goesOn e₁ _)
  | failed failure =>
    obtain ⟨e₁, run, -⟩ := settleFailure_yields sound p.current failure p.report now
    have emits := emits_failure sound bound copied failure p.report now
    simp only [run, contain] at emits ⊢
    exact (began.after emits).before (goesOn e₁ _)
  | panicked => exact began

/-- Nothing but an answer is told as one. -/
theorem answers_of_answered {now : Instant} {move : Move} {m : Mutation} {a : Answer}
    (told : .answered m a ∈ (e.perform now move).2) : move = .answer a := by
  cases tells_of_mem told with
  | pass about => cases about
  | answer => rfl

/-- Every move tells of failures for a while what its occurrences call for. -/
theorem emits_perform (s : e.view.Sound) (bound : e.policy.maxRetries ≤ maxRetryCount)
    {earlier : List Occurrence}
    (copied : ∀ p, e.pass = some p →
      p.current.tally = e.policy.tally (failuresOf p.current.id earlier))
    (now : Instant) (move : Move) :
    ∃ events, Emits events e (e.perform now move).1 ∧
      noticesOf e.policy ((e.perform now move).2 ++ earlier) =
        events ++ noticesOf e.policy earlier := by
  by_cases answers : ∃ a, move = .answer a
  · obtain ⟨a, rfl⟩ := answers
    cases waits : e.pass with
    | none =>
      refine ⟨[], ?_, ?_⟩ <;> simp only [perform, inFlight, waits, Option.map_none]
      · exact .refl e
      · rfl
    | some p =>
      refine ⟨(Occurrence.answered p.current a).notices e.policy earlier, ?_, ?_⟩
      · simp only [perform, inFlight, waits, Option.map_some]
        exact emits_answer s bound waits (copied p waits) a now
      · -- Whether the pass has ended calls for no event.
        simp only [perform, inFlight, waits, Option.map_some]
        split <;> rfl
  · have unanswered (a : Answer) : move ≠ .answer a := fun same => answers ⟨a, same⟩
    refine ⟨[], .quiet (e.recounts_unanswered now unanswered).told (by simp), ?_⟩
    exact noticesOf_append earlier fun m a told => unanswered a (answers_of_answered told)

end Engine

/-! ## Runs -/

/-- In every state of every run that starts with an empty queue, what was told of failures for a
while is exactly what the history calls for. Each such answer was told once, with the number of
failures of its mutation since that was queued last. The mark was announced with the failure whose
number is the limit and with no other one, earlier or later; it carries that number and the text of
that failure, and the failure itself was told as the very next thing. -/
theorem exhaustion_announced_once {e : Engine} (sound : e.view.Sound)
    (empty : e.view.queueRows = []) (idle : e.isProcessing = false)
    (limit : 1 ≤ e.policy.maxRetries) (bound : e.policy.maxRetries ≤ maxRetryCount)
    {clock : Instant} {s : Session} (run : Session.Run Session.Steady ⟨e, [], clock⟩ s) :
    ∃ told, s.engine.trace = told ++ e.trace ∧
      told.filterMap Effect.notice? = noticesOf e.policy s.past ∧
      ∀ later earlier id retries lastError,
        told = later ++ .emitted (.itemExhausted id retries lastError) :: earlier →
          ∃ since error, later = since ++ [.emitted (.itemFailed id retries error)] ∧
            lastError = some error := by
  suffices emits : Engine.Emits (noticesOf e.policy s.past) e s.engine by
    obtain ⟨told, trace, failures⟩ := emits
    exact ⟨told, trace, failures.notices, failures.followed⟩
  induction run with
  | refl => exact .refl e
  | @step t before now move ok ih =>
    have kept := (Session.RetriesCounted.start sound empty idle clock).of_run limit before
    have policy : t.engine.policy = e.policy := kept.sameLimit
    obtain ⟨events, emits, called⟩ := Engine.emits_perform kept.sound (policy ▸ bound)
      (fun p waits => policy ▸ kept.counts.copies p waits p.current List.mem_cons_self) now move
    rw [policy] at called
    rw [Session.past_after, called]
    exact ih.trans emits

namespace Session

/-- A mutation that has reached its limit, and has been queued anew and reached it again, fails once
more. -/
def sampleBeyond : Session :=
  sampleExhausted.through [.process, .answer (.failed (.transient "HTTP 504"))]

def sampleNotices : List Event :=
  [.itemFailed "m1" 3 "transient: HTTP 504",
    .itemFailed "m1" 2 "transient: HTTP 503", .itemExhausted "m1" 2 (some "transient: HTTP 503"),
    .itemFailed "m1" 1 "transient: HTTP 502",
    .itemFailed "m1" 2 "transient: HTTP 501", .itemExhausted "m1" 2 (some "transient: HTTP 501"),
    .itemFailed "m1" 1 "transient: HTTP 500"]

end Session

/-- The theorem at a mutation whose mark is announced again since it was queued anew, but not again
when it fails beyond its limit. -/
theorem renewed_mutation_exhausted_again :
    ∃ told, Session.sampleBeyond.engine.trace = told ++ (Engine.inMemory ⟨2⟩ true).trace ∧
      told.filterMap Effect.notice? = Session.sampleNotices := by
  have run : Session.Run Session.Steady ⟨Engine.inMemory ⟨2⟩ true, [], .epoch⟩
      Session.sampleBeyond :=
    .through (.through .refl (by decide +kernel)) (by decide +kernel)
  obtain ⟨told, trace, notices, -⟩ := exhaustion_announced_once (Engine.inMemory_sound ⟨2⟩ true)
    (by decide +kernel) (by decide +kernel) (by decide) (by decide) run
  exact ⟨told, trace, notices.trans (by decide +kernel)⟩

end Outbox
