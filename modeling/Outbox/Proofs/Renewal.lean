import Outbox.Proofs.RetryBookkeeping

/-!
# A mutation that was queued anew

A dead letter that is requeued keeps its id and starts with no failures. But a pass that was in
progress then may have a copy of the mutation from before, and the result of a call is written over
the row of the id, whichever copy was sent. So the new row counts the failures of the calls made
since, and only those, unless that pass answers for its old copy with a failure that passes: then
the row goes on from what the copy had counted before.

The invariant is seen from the moment of the requeue. The row holds what the failures since amount
to, on top of nothing or of the old copy, if one was answered for; a copy taken since says the same,
and an old copy is still ahead only while no failure was counted.
-/
namespace Outbox

open Table Time

/-! ## Counting on -/

namespace Tally

/-- What a mutation that is queued starts with. -/
def initial : Tally := ⟨0, none, .pending⟩

/-- One more failure for a while. -/
def failed (p : RetryPolicy) (error : String) (t : Tally) : Tally where
  retries := min maxRetryCount (t.retries + 1)
  lastError := some error
  state := if p.maxRetries ≤ min maxRetryCount (t.retries + 1) then .exhausted else t.state

/-- What some failures amount to on top of others, the latest first. -/
def after (p : RetryPolicy) (errors : List String) (t : Tally) : Tally := errors.foldr (failed p) t

variable {p : RetryPolicy}

theorem next_retries_after (errors : List String) (t : Tally) :
    min maxRetryCount ((t.after p errors).retries + 1) =
      min maxRetryCount (t.retries + errors.length + 1) := by
  induction errors with
  | nil => rfl
  | cons error errors ih =>
    change min maxRetryCount (min maxRetryCount ((t.after p errors).retries + 1) + 1) = _
    rw [ih, List.length_cons]
    omega

theorem retries_after {errors : List String} (some_error : errors ≠ []) (t : Tally) :
    (t.after p errors).retries = min maxRetryCount (t.retries + errors.length) := by
  cases errors with
  | nil => exact absurd rfl some_error
  | cons error errors => exact next_retries_after errors t

/-- The mark is set when the count reaches the limit, and it is never taken back. -/
theorem state_after (errors : List String) (t : Tally) :
    (t.after p errors).state = .exhausted ↔ t.state = .exhausted ∨
      errors ≠ [] ∧ p.maxRetries ≤ min maxRetryCount (t.retries + errors.length) := by
  induction errors with
  | nil => simp [after]
  | cons error errors ih =>
    change (if p.maxRetries ≤ min maxRetryCount ((t.after p errors).retries + 1) then
      DeliveryState.exhausted else (t.after p errors).state) = .exhausted ↔ _
    rw [next_retries_after, List.length_cons, ← Nat.add_assoc]
    by_cases reached : p.maxRetries ≤ min maxRetryCount (t.retries + errors.length + 1)
    · simp [reached]
    · -- The limit was not reached before either, so the mark is what it was in the beginning.
      have below : ¬ p.maxRetries ≤ min maxRetryCount (t.retries + errors.length) := by omega
      simp [reached, ih, below]

end Tally

theorem Mutation.tally_retained_eq (m : Mutation) (p : RetryPolicy) (error : String) :
    (m.retained p error).tally = m.tally.failed p error := by
  rw [retained_eq]
  rfl

/-! ## Since a requeue -/

namespace Occurrence

/-- The copy of an id for which a failure for a while is counted. -/
def failed? (id : String) : Occurrence → Option Mutation
  | .answered m (.failed (.transient _)) => if m.id = id then some m else none
  | _ => none

def isAnswer : Occurrence → Bool
  | .answered _ _ => true
  | _ => false

/-- An occurrence that neither begins a pass nor counts for an id. -/
structure Passes (id : String) (d : Occurrence) : Prop where
  recount : ∀ failures, d.recount id failures = failures
  failed : d.failed? id = none
  begins : d ≠ .began

end Occurrence

/-- The copy of an id for which a failure was counted before a pass began: the pass that was in
progress when the occurrences began had it. -/
def overtaker (id : String) : List Occurrence → Option Mutation
  | [] => none
  | d :: past => (overtaker id past).or (if .began ∈ past then none else d.failed? id)

/-- How many calls for an id failed for a while that were made since all that began. If a call was
in flight then, the first answer is the one to it. -/
def failedSince (id : String) (inFlight : Bool) : List Occurrence → Nat
  | [] => 0
  | d :: past => failedSince id inFlight past +
    if (d.failed? id).isSome && (!inFlight || past.any Occurrence.isAnswer) then 1 else 0

/-- What the row of an id holds after it was requeued. -/
def tallySince (p : RetryPolicy) (id : String) (past : List Occurrence) : Tally :=
  (((overtaker id past).map Mutation.tally).getD .initial).after p (failuresOf id past)

section Passing

variable {id : String} {done : List Occurrence} (past : List Occurrence)
    (passes : ∀ d ∈ done, d.Passes id)

include passes

theorem failuresOf_passing : failuresOf id (done ++ past) = failuresOf id past :=
  failuresOf_append past fun d member => (passes d member).recount

theorem overtaker_passing : overtaker id (done ++ past) = overtaker id past := by
  induction done with
  | nil => rfl
  | cons d done ih =>
    have same := ih fun d' member => passes d' (List.mem_cons_of_mem _ member)
    rw [List.cons_append, overtaker, same, (passes d List.mem_cons_self).failed, ite_self,
      Option.or_none]

theorem failedSince_passing (inFlight : Bool) :
    failedSince id inFlight (done ++ past) = failedSince id inFlight past := by
  induction done with
  | nil => rfl
  | cons d done ih =>
    have same := ih fun d' member => passes d' (List.mem_cons_of_mem _ member)
    rw [List.cons_append, failedSince, same, (passes d List.mem_cons_self).failed]
    rfl

theorem began_passing : .began ∈ done ++ past ↔ .began ∈ past := by
  rw [List.mem_append]
  refine ⟨fun h => h.resolve_left fun member => ?_, .inr⟩
  exact (passes _ member).begins rfl

theorem tallySince_passing (p : RetryPolicy) :
    tallySince p id (done ++ past) = tallySince p id past := by
  rw [tallySince, overtaker_passing past passes, failuresOf_passing past passes]
  rfl

end Passing

theorem Occurrence.passes_atEnd (id : String) (rest : List Mutation) :
    ∀ d ∈ atEnd rest, d.Passes id :=
  forall_atEnd ⟨fun _ => rfl, rfl, by simp⟩ rest

theorem Occurrence.passes_panicked (id : String) (m : Mutation) :
    ∀ d ∈ [ended, .answered m .panicked], d.Passes id := by
  intro d member
  rcases List.mem_cons.mp member with rfl | last
  · exact ⟨fun _ => rfl, rfl, by simp⟩
  · rw [List.mem_singleton.mp last]
    exact ⟨fun _ => rfl, rfl, by simp⟩

theorem Occurrence.passes_of_isTalk {d : Occurrence} (talk : d.isTalk = true) (id : String) :
    d.Passes id := by
  refine ⟨Occurrence.recount_of_isTalk talk id, ?_, ?_⟩
  · cases d with
    | answered m a => cases talk
    | _ => rfl
  · rintro rfl
    cases talk

/-- An answer counts for its own id only, and only if it is a failure that passes. -/
theorem Occurrence.passes_answered {id : String} {m : Mutation} {a : Answer}
    (other : ∀ reason, a = .failed (.transient reason) → m.id ≠ id) :
    (Occurrence.answered m a).Passes id := by
  rcases a with _ | ⟨reason | ⟨status, reason⟩⟩ | _
  · exact ⟨fun _ => rfl, rfl, by simp⟩
  · have differs := other reason rfl
    exact ⟨fun _ => if_neg differs, if_neg differs, by simp⟩
  · exact ⟨fun _ => rfl, rfl, by simp⟩
  · exact ⟨fun _ => rfl, rfl, by simp⟩

/-- What a move can do while an id is in the queue: leave the rows of the id alone or take them out,
or make a step of a pass. -/
inductive Around (policy : RetryPolicy) (now : Instant) (id : String) (s : Stock) :
    List Occurrence → Stock → Prop
  | aside {rows letters : List Row} {done : List Occurrence}
    (part : ∀ r ∈ rows, r.cell 0 = .text id → r ∈ s.queue) (passes : ∀ d ∈ done, d.Passes id) :
    Around policy now id s done { s with queue := rows, letters := letters }
  | start {queued : List Mutation} (idle : s.pass = none)
    (listed : (sortRows (rowLE [5]) s.queue).mapM Mutation.ofRow = .ok queued) :
    Around policy now id s (Occurrence.atEnd queued ++ [.began]) (s.continued queued .empty)
  | settle {p : Pass} {a : Answer} {report : Report} (waits : s.pass = some p) :
    Around policy now id s (Occurrence.atEnd p.rest ++ [.answered p.current a])
      ((s.settled policy p.current now a).continued p.rest report)
  | panic {p : Pass} (waits : s.pass = some p) :
    Around policy now id s [.ended, .answered p.current .panicked] { s with pass := none }

theorem Shift.around {policy : RetryPolicy} {now : Instant} {id : String} {s t : Stock}
    {done : List Occurrence} (shift : Shift policy now s done t)
    (present : .text id ∈ keysOf s.queue) : Around policy now id s done t := by
  cases shift with
  | quiet talk =>
    exact .aside (fun r member _ => member)
      fun d member => Occurrence.passes_of_isTalk (talk d member) id
  | @queue c fresh =>
    -- Whatever is queued has another id, as this one is taken.
    have other : c.id ≠ id := by
      rintro rfl
      exact fresh present
    refine .aside (forall_added (fun r member _ => member) fun number key => ?_) ?_
    · exact absurd (Cell.text.inj key) other
    · exact List.forall_mem_singleton.mpr ⟨fun _ => if_neg other, rfl, by simp⟩
  | remove _ =>
    exact .aside (fun r member _ => List.mem_of_mem_filter member)
      (List.forall_mem_singleton.mpr ⟨fun _ => rfl, rfl, by simp⟩)
  | clear =>
    refine .aside (fun r none _ => by cases none) fun d member => ?_
    obtain ⟨_, -, rfl⟩ := List.mem_map.mp member
    exact ⟨fun _ => rfl, rfl, by simp⟩
  | bury found read =>
    exact .aside (fun r member _ => List.mem_of_mem_filter member) fun d none => by cases none
  | @revive id' r l found read fresh =>
    have named : l.mutation.id = id' := DeadLetter.id_of_found found read
    have other : id' ≠ id := by
      rintro rfl
      exact fresh (named ▸ present)
    refine .aside (forall_added (fun r member _ => member) fun number key => ?_) ?_
    · exact absurd (named.symm.trans (Cell.text.inj key)) other
    · exact List.forall_mem_singleton.mpr ⟨fun _ => if_neg other, rfl, by simp⟩
  | discard _ =>
    exact .aside (fun r member _ => member)
      (List.forall_mem_singleton.mpr ⟨fun _ => rfl, rfl, by simp⟩)
  | start idle listed => exact .start idle listed
  | settle waits orderly => exact .settle waits
  | panic waits => exact .panic waits

/-! ## The invariant -/

/-- What is known of an id that was requeued. The pass `p₀` is the one that was in progress then,
and `past` is what was done since. -/
structure Renewed (policy : RetryPolicy) (id : String) (p₀ : Option Pass) (past : List Occurrence)
    (s : Stock) : Prop where
  rows : ∀ r ∈ s.queue, r.cell 0 = .text id → r.Holds (tallySince policy id past)
  copies : .began ∈ past → ∀ p, s.pass = some p → ∀ m ∈ p.current :: p.rest, m.id = id →
    m.tally = tallySince policy id past
  old : .began ∉ past → ∀ p, s.pass = some p →
    (∃ q ∈ p₀, p.current :: p.rest <:+ q.current :: q.rest) ∧
      (id ∈ p.ids → failuresOf id past = [])
  source : ∀ m, overtaker id past = some m →
    (∃ q ∈ p₀, m ∈ q.current :: q.rest) ∧ failuresOf id past ≠ []

namespace Renewed

variable {policy : RetryPolicy} {id : String} {p₀ : Option Pass} {past done : List Occurrence}
  {s t : Stock} {now : Instant}

/-- What happens outside of the pass, to other ids. -/
theorem keep (renewed : Renewed policy id p₀ past s) {rows letters : List Row}
    (part : ∀ r ∈ rows, r.cell 0 = .text id → r ∈ s.queue)
    (passes : ∀ d ∈ done, d.Passes id) :
    Renewed policy id p₀ (done ++ past) { s with queue := rows, letters := letters } := by
  have began := began_passing past passes
  constructor
  · intro r member key
    rw [tallySince_passing past passes]
    exact renewed.rows r (part r member key) key
  · rw [began, tallySince_passing past passes]
    exact renewed.copies
  · rw [began, failuresOf_passing past passes]
    exact renewed.old
  · rw [overtaker_passing past passes, failuresOf_passing past passes]
    exact renewed.source

/-- The pass goes on to what is behind the current mutation. -/
theorem advance (renewed : Renewed policy id p₀ past s) {p : Pass} (waits : s.pass = some p)
    (report : Report) : Renewed policy id p₀ past (s.continued p.rest report) := by
  constructor
  · rw [Stock.continued_queue]
    exact renewed.rows
  · intro began q waits' m member
    rw [Stock.continued_pass waits'] at member
    exact renewed.copies began p waits m (List.mem_cons_of_mem _ member)
  · intro unbegun q waits'
    obtain ⟨⟨q₀, inProgress, last⟩, silent⟩ := renewed.old unbegun p waits
    rw [Pass.ids, Stock.continued_pass waits']
    refine ⟨⟨q₀, inProgress, (List.suffix_cons _ _).trans last⟩, fun ahead => silent ?_⟩
    exact List.mem_cons_of_mem _ ahead
  · exact renewed.source

theorem start (renewed : Renewed policy id p₀ past s) {queued : List Mutation}
    (listed : (sortRows (rowLE [5]) s.queue).mapM Mutation.ofRow = .ok queued) :
    Renewed policy id p₀ (.began :: past) (s.continued queued .empty) := by
  have overtaken : overtaker id (.began :: past) = overtaker id past := by
    have none : Occurrence.began.failed? id = none := rfl
    rw [overtaker, none, ite_self, Option.or_none]
  have tally : tallySince policy id (.began :: past) = tallySince policy id past := by
    rw [tallySince, overtaken]
    rfl
  constructor
  · rw [Stock.continued_queue, tally]
    exact renewed.rows
  · -- The copies are read from the rows, so they say what the rows say.
    intro _ p waits m member same
    rw [Stock.continued_pass waits] at member
    obtain ⟨r, present, read⟩ := exists_of_mem_mapM listed member
    have key := (Mutation.ofRow_eq_ok_iff.mp read).1.id
    rw [same] at key
    rw [tally]
    exact (renewed.rows r ((sortRows_perm _ _).mem_iff.mp present) key).tally_eq read
  · exact fun unbegun => absurd List.mem_cons_self unbegun
  · rw [overtaken]
    exact renewed.source

/-- A failure that passes is counted on the copy that was sent. -/
theorem tally_of_failure (renewed : Renewed policy id p₀ past s) {p : Pass}
    (waits : s.pass = some p) (same : p.current.id = id) (reason : String) :
    tallySince policy id (.answered p.current (.failed (.transient reason)) :: past) =
      (p.current.retained policy (Failure.transient reason).message).tally := by
  have counted : failuresOf id (.answered p.current (.failed (.transient reason)) :: past) =
      (Failure.transient reason).message :: failuresOf id past := if_pos same
  rw [Mutation.tally_retained_eq, tallySince, counted, overtaker, Occurrence.failed?, if_pos same]
  by_cases began : .began ∈ past
  · -- The copy was taken since the requeue, so it agrees with the row.
    rw [if_pos began, Option.or_none,
      renewed.copies began p waits p.current List.mem_cons_self same]
    rfl
  · -- It is an old one and the first to be answered for; from now on all is counted on top of it.
    obtain ⟨-, silent⟩ := renewed.old began p waits
    have none := silent (same ▸ List.mem_cons_self)
    have first : overtaker id past = Option.none := by
      cases h : overtaker id past with
      | none => rfl
      | some m => exact absurd none (renewed.source m h).2
    rw [if_neg began, first, none]
    rfl

theorem fail (renewed : Renewed policy id p₀ past s) (distinct : s.Distinct) {p : Pass}
    (waits : s.pass = some p) (same : p.current.id = id) (reason : String) (report : Report) :
    Renewed policy id p₀ (.answered p.current (.failed (.transient reason)) :: past)
      ((s.settled policy p.current now (.failed (.transient reason))).continued p.rest report) := by
  have tally := renewed.tally_of_failure waits same reason
  have once : id ∉ p.rest.map (·.id) := same ▸ (List.nodup_cons.mp (distinct.pass p waits)).1
  have counted :
      failuresOf id (.answered p.current (.failed (.transient reason)) :: past) ≠ [] := by
    rw [failuresOf_cons, Occurrence.recount, if_pos same]
    exact List.cons_ne_nil _ _
  constructor
  · rw [Stock.continued_queue]
    intro r member key
    obtain ⟨before, present, rfl⟩ := List.mem_map.mp member
    -- The state is written over the row of the id and over no other one.
    by_cases keyed : before.hasKey p.current.id = true
    · rw [if_pos keyed, tally]
      have held := renewed.rows before present (same ▸ Row.hasKey_iff.mp keyed)
      exact held.overwrite _
    · rw [if_neg keyed] at key
      exact absurd (Row.hasKey_iff.mpr (same ▸ key)) keyed
  · -- The pass has no second copy of the id ahead.
    intro _ q waits' m member other
    rw [Stock.continued_pass waits'] at member
    exact absurd (other ▸ List.mem_map_of_mem member) once
  · intro unbegun q waits'
    obtain ⟨⟨q₀, inProgress, last⟩, -⟩ :=
      renewed.old (fun h => unbegun (List.mem_cons_of_mem _ h)) p waits
    rw [Pass.ids, Stock.continued_pass waits']
    exact ⟨⟨q₀, inProgress, (List.suffix_cons _ _).trans last⟩, fun ahead => absurd ahead once⟩
  · intro m taken
    refine ⟨?_, counted⟩
    rw [overtaker, Option.or_eq_some_iff] at taken
    rcases taken with earlier | ⟨-, now⟩
    · exact (renewed.source m earlier).1
    · -- No pass has begun, so what was sent is one of the pass that was in progress.
      split at now
      · cases now
      next unbegun =>
        rw [Occurrence.failed?, if_pos same] at now
        cases now
        obtain ⟨⟨q₀, inProgress, last⟩, -⟩ := renewed.old unbegun p waits
        exact ⟨q₀, inProgress, last.subset List.mem_cons_self⟩

end Renewed

/-- An answer leaves the rows of an id alone, or takes them out, unless it is a failure of that id
that passes. -/
theorem Stock.mem_settled {s : Stock} {policy : RetryPolicy} {m : Mutation} {now : Instant}
    {a : Answer} {id : String} (other : ∀ reason, a = .failed (.transient reason) → m.id ≠ id)
    {r : Row} (left : r ∈ (s.settled policy m now a).queue) (key : r.cell 0 = .text id) :
    r ∈ s.queue := by
  rcases a with _ | ⟨reason | ⟨status, reason⟩⟩ | _
  · exact List.mem_of_mem_filter left
  · obtain ⟨before, present, rfl⟩ := List.mem_map.mp left
    by_cases keyed : before.hasKey m.id = true
    · -- The row keeps its key, so it would be one of the mutation itself.
      rw [if_pos keyed, Mutation.toRow, Mutation.cell_overwrite _ before _ (by decide),
        Row.hasKey_iff.mp keyed] at key
      exact absurd (Cell.text.inj key) (other reason rfl)
    · rw [if_neg keyed]
      exact present
  · exact List.mem_of_mem_filter left
  · exact left

/-- An answer takes effect in the two tables only. -/
theorem Stock.settled_eq (s : Stock) (policy : RetryPolicy) (m : Mutation) (now : Instant)
    (a : Answer) :
    s.settled policy m now a =
      { s with
        queue := (s.settled policy m now a).queue
        letters := (s.settled policy m now a).letters } := by
  rcases a with _ | ⟨_ | _⟩ | _ <;> rfl

namespace Renewed

variable {policy : RetryPolicy} {id : String} {p₀ : Option Pass} {past done : List Occurrence}
  {s t : Stock} {now : Instant}

theorem settle (renewed : Renewed policy id p₀ past s) (distinct : s.Distinct) {p : Pass}
    (waits : s.pass = some p) (a : Answer) (report : Report) :
    Renewed policy id p₀ (.answered p.current a :: past)
      ((s.settled policy p.current now a).continued p.rest report) := by
  by_cases counts : ∃ reason, a = .failed (.transient reason) ∧ p.current.id = id
  · obtain ⟨reason, rfl, same⟩ := counts
    exact renewed.fail distinct waits same reason report
  · have other : ∀ reason, a = .failed (.transient reason) → p.current.id ≠ id :=
      fun reason failed same => counts ⟨reason, failed, same⟩
    have kept : Renewed policy id p₀ ([.answered p.current a] ++ past)
        (s.settled policy p.current now a) := by
      rw [Stock.settled_eq]
      exact renewed.keep (fun r => Stock.mem_settled other)
        (List.forall_mem_singleton.mpr (Occurrence.passes_answered other))
    refine kept.advance ?_ report
    rw [Stock.settled_eq]
    exact waits

theorem around (renewed : Renewed policy id p₀ past s) (distinct : s.Distinct)
    (step : Around policy now id s done t) : Renewed policy id p₀ (done ++ past) t := by
  cases step with
  | aside part passes => exact renewed.keep part passes
  | @start queued idle listed =>
    rw [List.append_assoc]
    exact (renewed.start listed).keep (fun r member _ => member) (Occurrence.passes_atEnd id queued)
  | @settle p a report waits =>
    rw [List.append_assoc]
    exact (renewed.settle distinct waits a report).keep (fun r member _ => member)
      (Occurrence.passes_atEnd id p.rest)
  | @panic p waits =>
    have kept : Renewed policy id p₀ ([.ended, .answered p.current .panicked] ++ past) s :=
      renewed.keep (fun r member _ => member) (Occurrence.passes_panicked id p.current)
    exact ⟨kept.rows, fun _ q none => (by cases none), fun _ q none => (by cases none), kept.source⟩

end Renewed

/-! ## Calls made since -/

/-- The failures that are counted, as long as no old copy was answered for, are those of calls that
were made since the requeue. -/
structure Counted (id : String) (inFlight : Bool) (past : List Occurrence) (s : Stock) : Prop where
  first : inFlight = true →
    past.any Occurrence.isAnswer = true ∨ s.pass.isSome = true ∧ .began ∉ past
  total : overtaker id past = none → failedSince id inFlight past = (failuresOf id past).length

namespace Counted

variable {id : String} {inFlight : Bool} {past done : List Occurrence} {s t : Stock}

theorem keep (counted : Counted id inFlight past s) (passes : ∀ d ∈ done, d.Passes id)
    (pass : t.pass = s.pass) : Counted id inFlight (done ++ past) t := by
  constructor
  · intro waited
    rw [began_passing past passes, pass, List.any_append]
    refine (counted.first waited).imp_left fun answered => ?_
    rw [answered, Bool.or_true]
  · rw [overtaker_passing past passes, failedSince_passing past passes,
      failuresOf_passing past passes]
    exact counted.total

theorem answer (counted : Counted id inFlight past s) (m : Mutation) (a : Answer) :
    Counted id inFlight (.answered m a :: past) t := by
  constructor
  · exact fun _ => .inl rfl
  · intro none
    rw [overtaker, Option.or_eq_none_iff] at none
    obtain ⟨before, now⟩ := none
    by_cases counts : ∃ reason, a = .failed (.transient reason) ∧ m.id = id
    · obtain ⟨reason, rfl, same⟩ := counts
      have failed : (Occurrence.answered m (.failed (.transient reason))).failed? id = some m :=
        if_pos same
      -- Before a pass began the failure would be one of an old copy.
      have began : .began ∈ past := by
        by_contra unbegun
        rw [if_neg unbegun, failed] at now
        cases now
      -- So the call that was in flight has its answer, and this one is to a later call.
      have late : (!inFlight || past.any Occurrence.isAnswer) = true := by
        cases waited : inFlight with
        | false => rfl
        | true =>
          rcases counted.first waited with answered | ⟨-, unbegun⟩
          · exact answered
          · exact absurd began unbegun
      rw [failedSince, failed, late, counted.total before, failuresOf_cons, Occurrence.recount,
        if_pos same]
      rfl
    · have passes : (Occurrence.answered m a).Passes id :=
        Occurrence.passes_answered fun reason failed same => counts ⟨reason, failed, same⟩
      rw [failedSince, passes.failed, failuresOf_cons, passes.recount]
      exact counted.total before

theorem around {policy : RetryPolicy} {now : Instant} (counted : Counted id inFlight past s)
    (step : Around policy now id s done t) : Counted id inFlight (done ++ past) t := by
  cases step with
  | aside part passes => exact counted.keep passes rfl
  | @start queued idle listed =>
    rw [List.append_assoc]
    -- No pass is in progress, so the call that was in flight has its answer.
    have began : Counted id inFlight (.began :: past) (s.continued queued .empty) := by
      refine ⟨fun waited => .inl ?_, fun none => ?_⟩
      · exact (counted.first waited).resolve_right fun ⟨running, _⟩ => by simp [idle] at running
      · rw [overtaker, Option.or_eq_none_iff] at none
        exact counted.total none.1
    exact began.keep (Occurrence.passes_atEnd id queued) rfl
  | @settle p a report waits =>
    rw [List.append_assoc]
    exact (counted.answer p.current a).keep (Occurrence.passes_atEnd id p.rest) rfl
  | @panic p waits =>
    have ends : ∀ d ∈ [Occurrence.ended], d.Passes id :=
      List.forall_mem_singleton.mpr ⟨fun _ => rfl, rfl, by simp⟩
    exact (counted.answer p.current .panicked).keep ends rfl

end Counted

/-! ## Runs -/

/-- What is requeued is a mutation of that id, which was not in the queue. -/
theorem Shift.revived {policy : RetryPolicy} {now : Instant} {s t : Stock} {done : List Occurrence}
    (shift : Shift policy now s done t) {id : String} (requeued : .requeued id ∈ done) :
    .text id ∉ keysOf s.queue ∧ t.pass = s.pass ∧
      ∃ m : Mutation, m.id = id ∧ t.queue = added s.queue (m.renewed now).toRow := by
  cases shift with
  | quiet talk => cases talk _ requeued
  | @revive id' r l found read fresh =>
    cases List.mem_singleton.mp requeued
    have named : l.mutation.id = id := DeadLetter.id_of_found found read
    exact ⟨named ▸ fresh, rfl, l.mutation, named, rfl⟩
  | _ => simp at requeued

namespace Session

/-- A change gets an id that is not taken, and an id is in the queue afterwards. -/
def Keeps (id : String) (s : Session) (now : Instant) (move : Move) : Prop :=
  s.NewId move ∧ .text id ∈ keysOf (s.after now move).engine.view.queueRows

instance (id : String) (s : Session) (now : Instant) (move : Move) :
    Decidable (s.Keeps id now move) :=
  inferInstanceAs (Decidable (s.NewId move ∧ _))

/-- A session some occurrences after an id was requeued while the pass `p₀` was in progress. -/
structure Follows (policy : RetryPolicy) (id : String) (p₀ : Option Pass) (past : List Occurrence)
    (s : Session) : Prop extends Keyed s where
  sameLimit : s.engine.view.policy = policy
  present : .text id ∈ keysOf s.engine.view.queueRows
  renewed : Renewed policy id p₀ past s.engine.view.stock
  counted : Counted id p₀.isSome past s.engine.view.stock

namespace Follows

variable {policy : RetryPolicy} {id : String} {p₀ : Option Pass} {past : List Occurrence}
    {s t : Session}

theorem after (follows : s.Follows policy id p₀ past) {now : Instant} {move : Move}
    (ok : s.Keeps id now move) :
    (s.after now move).Follows policy id p₀ ((s.engine.perform now move).2 ++ past) := by
  have moved := after_moved follows.sound now ok.1.isFresh
  have step := moved.shift.around follows.present
  rw [follows.sameLimit] at step
  exact ⟨follows.toKeyed.after now ok.1, moved.policy.trans follows.sameLimit, ok.2,
    follows.renewed.around follows.distinct step, follows.counted.around step⟩

theorem of_run (follows : s.Follows policy id p₀ []) (run : Run (Keeps id) s t) :
    ∃ done, t.past = done ++ s.past ∧ t.Follows policy id p₀ done := by
  induction run with
  | refl => exact ⟨[], rfl, follows⟩
  | @step t run now move ok ih =>
    obtain ⟨done, told, follows⟩ := ih
    refine ⟨_, ?_, follows.after ok⟩
    rw [past_after, told, List.append_assoc]

/-- Right after the requeue the row is new, and whatever copy the pass has is an old one. -/
theorem start (keyed : s.Keyed) {now : Instant}
    (requeued : .requeued id ∈ (s.engine.perform now (.requeue id)).2) :
    (s.after now (.requeue id)).Follows s.engine.policy id
      (s.after now (.requeue id)).engine.pass [] := by
  have new : s.NewId (.requeue id) := fun c queues => by cases queues
  have moved := after_moved keyed.sound now new.isFresh
  obtain ⟨fresh, -, m, named, queue⟩ := moved.shift.revived requeued
  refine ⟨keyed.after now new, moved.policy, ?_, ?_, ?_⟩
  · change _ ∈ keysOf (s.after now (.requeue id)).engine.view.stock.queue
    rw [queue]
    exact (mem_keysOf_added rfl).mpr (.inr (congrArg Cell.text named.symm))
  · constructor
    · rw [queue]
      refine forall_added (fun r member key => ?_) fun number _ => Row.holds_toRow number _
      exact absurd (mem_keysOf.mpr ⟨r, member, key⟩) fresh
    · exact fun began => by cases began
    · exact fun _ p waits => ⟨⟨p, waits, List.suffix_refl _⟩, fun _ => rfl⟩
    · exact fun m taken => by cases taken
  · exact ⟨fun running => .inr ⟨running, List.not_mem_nil⟩, fun _ => rfl⟩

end Follows

end Session

/-- A run in which a dead letter was requeued and has been in the queue since. The first session is
the one right after the requeue, and `done` is what was done from there to the second one. -/
structure Renewal (e : Engine) (id : String) (s : Session) (done : List Occurrence) (t : Session) :
    Prop where
  requeued : ∃ clock before now, s = Session.after before now (.requeue id) ∧
    Session.Run (fun s _ move => s.NewId move) ⟨e, [], clock⟩ before ∧
    .requeued id ∈ (before.engine.perform now (.requeue id)).2
  run : Session.Run (Session.Keeps id) s t
  told : t.past = done ++ s.past

theorem Renewal.follows {e : Engine} {id : String} {s t : Session} {done : List Occurrence}
    (renewal : Renewal e id s done t) (sound : e.view.Sound)
    (once : (idsOf e.view.queueRows).Nodup) (idle : e.isProcessing = false) :
    ∃ policy, t.Follows policy id s.engine.pass done := by
  obtain ⟨clock, before, now, rfl, run, requeued⟩ := renewal.requeued
  have keyed : before.Keyed := (Session.Keyed.start sound once idle clock).of_run run
  obtain ⟨done', told, follows⟩ := (Session.Follows.start keyed requeued).of_run renewal.run
  obtain rfl := List.append_cancel_right (renewal.told.symm.trans told)
  exact ⟨_, follows⟩

/-- As long as a mutation that was requeued is in the queue, its row counts anew: it counts the
calls made since that failed for a while, and it is marked only if these reached the limit. There is
one exception. If the pass that was in progress at the requeue had a copy from before and its call
failed for a while, then the row counts on from what that copy says. -/
theorem requeued_row_counts_anew_unless_overtaken {e : Engine} (sound : e.view.Sound)
    (once : (idsOf e.view.queueRows).Nodup) (idle : e.isProcessing = false) {id : String}
    {s t : Session} {done : List Occurrence} (renewal : Renewal e id s done t) :
    ∀ r ∈ t.engine.view.queueRows, r.cell 0 = .text id → ∃ state : DeliveryState,
      r.cell 8 = .text state.name ∧
      (overtaker id done = none →
        let failures := failedSince id s.engine.isProcessing done
        let count := min maxRetryCount failures
        r.cell 6 = .integer count ∧
          (state = .exhausted ↔ 0 < failures ∧ t.engine.policy.maxRetries ≤ count)) ∧
      ∀ m, overtaker id done = some m →
        (∃ p ∈ s.engine.pass, m ∈ p.current :: p.rest) ∧
          let count := min maxRetryCount (m.retries + (failuresOf id done).length)
          r.cell 6 = .integer count ∧
            (state = .exhausted ↔ m.state = .exhausted ∨ t.engine.policy.maxRetries ≤ count) := by
  intro r member key
  obtain ⟨policy, follows⟩ := renewal.follows sound once idle
  have limit : t.engine.policy = policy := follows.sameLimit
  have held := follows.renewed.rows r member key
  refine ⟨_, held.state, fun alone => ?_, fun m overtaken => ?_⟩
  · -- No old copy was answered for, so the tally began at nothing.
    have tally : tallySince policy id done = Tally.initial.after policy (failuresOf id done) := by
      rw [tallySince, alone]
      rfl
    have counted : failedSince id s.engine.isProcessing done = (failuresOf id done).length :=
      follows.counted.total alone
    have retries := held.retries
    rw [tally] at retries ⊢
    simp only [counted, limit]
    constructor
    · rw [retries]
      cases h : failuresOf id done with
      | nil => rfl
      | cons error errors =>
        rw [Tally.retries_after (List.cons_ne_nil _ _), Tally.initial, Nat.zero_add]
    · rw [Tally.state_after, Tally.initial, Nat.zero_add, List.length_pos_iff]
      simp
  · -- The old copy was written over the row, and the tally goes on from it.
    obtain ⟨old, failed⟩ := follows.renewed.source m overtaken
    have tally : tallySince policy id done = m.tally.after policy (failuresOf id done) := by
      rw [tallySince, overtaken]
      rfl
    have retries := held.retries
    rw [tally, Tally.retries_after failed] at retries
    refine ⟨old, retries, ?_⟩
    rw [tally, Tally.state_after, limit]
    exact or_congr_right ⟨fun h => h.2, fun reached => ⟨failed, reached⟩⟩

namespace Renewal

def sampleChange : Change := ⟨"m1", .update, .incidents, "i1", .obj [("open", .bool true)]⟩

/-- A mutation failed once, and the second call for it is in flight when it is given up by hand. -/
def sampleGivenUp : Session :=
  (⟨Engine.inMemory ⟨2⟩ true, [], .epoch⟩ : Session).through
    [.enqueue sampleChange, .process, .answer (.failed (.transient "HTTP 500")), .process,
      .deadLetter "m1"]

/-- It is queued anew at once. -/
def sampleRequeued : Session := sampleGivenUp.after .epoch (.requeue "m1")

/-- What the call in flight was made with. -/
def sampleCopy : Mutation :=
  { sampleChange.fresh .epoch with retries := 1, lastError := some "transient: HTTP 500" }

/-- The call of before fails. -/
def sampleOvertaken : Session :=
  sampleRequeued.through [.answer (.failed (.transient "HTTP 503"))]

def sampleOvertakenDone : List Occurrence :=
  [.ended, .answered sampleCopy (.failed (.transient "HTTP 503"))]

/-- The call of before never ends in an orderly way, and one that is made since fails. -/
def sampleAnew : Session :=
  sampleRequeued.through [.answer .panicked, .process, .answer (.failed (.transient "HTTP 503"))]

def sampleAnewDone : List Occurrence :=
  [.ended, .answered (sampleChange.fresh .epoch) (.failed (.transient "HTTP 503")), .began,
    .ended, .answered sampleCopy .panicked]

theorem sample_requeued :
    ∃ clock before now, sampleRequeued = Session.after before now (.requeue "m1") ∧
      Session.Run (fun s _ move => s.NewId move) ⟨Engine.inMemory ⟨2⟩ true, [], clock⟩ before ∧
      .requeued "m1" ∈ (before.engine.perform now (.requeue "m1")).2 :=
  ⟨.epoch, sampleGivenUp, .epoch, rfl, .through .refl (by decide +kernel), by decide +kernel⟩

theorem sample_overtaken :
    Renewal (Engine.inMemory ⟨2⟩ true) "m1" sampleRequeued sampleOvertakenDone sampleOvertaken where
  requeued := sample_requeued
  run := .through .refl (by decide +kernel)
  told := by decide +kernel

theorem sample_anew :
    Renewal (Engine.inMemory ⟨2⟩ true) "m1" sampleRequeued sampleAnewDone sampleAnew where
  requeued := sample_requeued
  run := .through .refl (by decide +kernel)
  told := by decide +kernel

theorem sample_once : (idsOf (Engine.inMemory ⟨2⟩ true).view.queueRows).Nodup := by decide +kernel

theorem sample_idle : (Engine.inMemory ⟨2⟩ true).isProcessing = false := by decide +kernel

end Renewal

/-- The theorem where the old call leaves the new row alone, and where its failure is counted on. -/
theorem requeued_while_in_flight :
    (∃ r ∈ Renewal.sampleAnew.engine.view.queueRows,
      r.cell 6 = .integer 1 ∧ r.cell 8 = .text "pending") ∧
    ∃ r ∈ Renewal.sampleOvertaken.engine.view.queueRows,
      r.cell 6 = .integer 2 ∧ r.cell 8 = .text "exhausted" := by
  have sound := Engine.inMemory_sound ⟨2⟩ true
  constructor
  · have present : .text "m1" ∈ keysOf Renewal.sampleAnew.engine.view.queueRows := by
      decide +kernel
    obtain ⟨r, member, key⟩ := mem_keysOf.mp present
    obtain ⟨state, named, anew, -⟩ := requeued_row_counts_anew_unless_overtaken sound
      Renewal.sample_once Renewal.sample_idle Renewal.sample_anew r member key
    obtain ⟨count, marked⟩ := anew (by decide +kernel)
    have failures : failedSince "m1" Renewal.sampleRequeued.engine.isProcessing
        Renewal.sampleAnewDone = 1 := by decide +kernel
    have limit : Renewal.sampleAnew.engine.policy.maxRetries = 2 := by decide +kernel
    rw [failures] at count marked
    rw [limit] at marked
    cases state with
    | pending => exact ⟨r, member, count, named⟩
    | exhausted =>
      obtain ⟨-, reached⟩ := marked.mp rfl
      exact absurd reached (by decide)
  · have present : .text "m1" ∈ keysOf Renewal.sampleOvertaken.engine.view.queueRows := by
      decide +kernel
    obtain ⟨r, member, key⟩ := mem_keysOf.mp present
    obtain ⟨state, named, -, on⟩ := requeued_row_counts_anew_unless_overtaken sound
      Renewal.sample_once Renewal.sample_idle Renewal.sample_overtaken r member key
    obtain ⟨-, count, marked⟩ := on Renewal.sampleCopy (by decide +kernel)
    have limit : Renewal.sampleOvertaken.engine.policy.maxRetries = 2 := by decide +kernel
    rw [limit] at marked
    obtain rfl : state = .exhausted := marked.mpr (.inr (by decide +kernel))
    exact ⟨r, member, count, named⟩

/-- A requeue does not always start afresh: the answer to a call that was made before it, with a
count from before it, is written over the new row. -/
theorem requeued_row_overwritten :
    ¬ ∀ e : Engine, e.view.Sound → (idsOf e.view.queueRows).Nodup → e.isProcessing = false →
      ∀ (id : String) (s t : Session) (done : List Occurrence), Renewal e id s done t →
        ∀ r ∈ t.engine.view.queueRows, r.cell 0 = .text id →
          let failures := failedSince id s.engine.isProcessing done
          r.cell 6 = .integer failures ∧
            (r.cell 8 = .text "exhausted" → t.engine.policy.maxRetries ≤ failures) := by
  intro anew
  have present : .text "m1" ∈ keysOf Renewal.sampleOvertaken.engine.view.queueRows := by
    decide +kernel
  obtain ⟨r, member, key⟩ := mem_keysOf.mp present
  obtain ⟨count, -⟩ := anew _ (Engine.inMemory_sound ⟨2⟩ true) Renewal.sample_once
    Renewal.sample_idle _ _ _ _ Renewal.sample_overtaken r member key
  have none : failedSince "m1" Renewal.sampleRequeued.engine.isProcessing
      Renewal.sampleOvertakenDone = 0 := by decide +kernel
  have counts : Renewal.sampleOvertaken.engine.view.queueRows.map (·.cell 6) = [.integer 2] := by
    decide +kernel
  rw [none] at count
  have two : r.cell 6 = .integer 2 := by
    have listed := List.mem_map_of_mem (f := (·.cell 6)) member
    rw [counts] at listed
    exact List.mem_singleton.mp listed
  rw [two] at count
  cases count

end Outbox
