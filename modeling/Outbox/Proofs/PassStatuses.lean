import Outbox.Proofs.SinglePass

/-!
# How passes end

A pass publishes one status when it begins and one when it ends, and the next pass begins only after
that. So what passes publish alternates, and between two passes the latest of it is an end. There is
one exception: a call that never ends in an orderly way ends its pass as well, and then no status is
published. Counted among the ends it does not disturb the alternation, which is read off the stages
of a trace; left out it does, and the status of the pass stays in force though the pass is over.
-/
namespace Outbox

open Time

/-- What a pass shows of its beginning and of its end. -/
inductive PassMark where
  | published (status : Status)
  /-- A call of the remote side never ended in an orderly way. -/
  | panicked
  deriving DecidableEq

namespace PassMark

def status? : PassMark → Option Status
  | published status => some status
  | panicked => none

end PassMark

namespace Effect

/-- The status that a pass publishes. -/
def passStatus? : Effect → Option Status
  | .emitted (.statusChanged .syncing _) => some .syncing
  | .emitted (.statusChanged .synced _) => some .synced
  | .emitted (.statusChanged .error _) => some .error
  | _ => none

def passMark? : Effect → Option PassMark
  | .answered _ .panicked => some .panicked
  | x => x.passStatus?.map .published

variable {x : Effect}

theorem passMark?_of_endsPass (ends : x.endsPass = true) :
    ∃ mark, mark ≠ .published .syncing ∧ x.passMark? = some mark := by
  cases x with
  | emitted event =>
    cases event with
    | statusChanged status now =>
      cases status with
      | synced | error => exact ⟨_, by simp, rfl⟩
      | _ => cases ends
    | _ => cases ends
  | answered m a =>
    cases a with
    | panicked => exact ⟨.panicked, by simp, rfl⟩
    | _ => cases ends
  | _ => cases ends

/-- Nothing but a beginning and an end leaves a mark. -/
theorem passMark?_of_inner (inner : x.endsPass = false)
    (other : ∀ now, x ≠ .emitted (.statusChanged .syncing now)) : x.passMark? = none := by
  cases x with
  | emitted event =>
    cases event with
    | statusChanged status now =>
      cases status with
      | syncing => exact absurd rfl (other now)
      | synced | error => cases inner
      | _ => rfl
    | _ => rfl
  | answered m a =>
    cases a with
    | panicked => cases inner
    | _ => rfl
  | _ => rfl

theorem passStatus?_eq (x : Effect) : x.passStatus? = x.passMark?.bind PassMark.status? := by
  unfold passMark?
  split
  · rfl
  · cases x.passStatus? <;> rfl

theorem passMark?_of_orderly (orderly : ∀ m, x ≠ .answered m .panicked) :
    x.passMark? = x.passStatus?.map .published := by
  unfold passMark?
  split
  next m => exact absurd rfl (orderly m)
  · rfl

end Effect

/-- The statuses that passes have published, the latest first. -/
def passStatuses (trace : List Effect) : List Status := trace.filterMap Effect.passStatus?

/-- The marks that passes have left, the latest first. -/
def passMarks (trace : List Effect) : List PassMark := trace.filterMap Effect.passMark?

theorem passStatuses_eq (trace : List Effect) :
    passStatuses trace = (passMarks trace).filterMap PassMark.status? := by
  rw [passStatuses, passMarks, List.filterMap_filterMap, funext Effect.passStatus?_eq]

/-- Where every call ends in an orderly way, the marks are statuses. -/
theorem passMarks_of_orderly {trace : List Effect} (orderly : ∀ m, .answered m .panicked ∉ trace) :
    passMarks trace = (passStatuses trace).map .published := by
  rw [passMarks, passStatuses, List.map_filterMap]
  refine List.filterMap_congr fun x member => Effect.passMark?_of_orderly ?_
  rintro m rfl
  exact orderly m member

/-! ## Alternation -/

section Alternation

variable {α β : Type}

/-- Beginnings and ends take turns, the latest first; the earliest is a beginning. -/
def Alternates (begins : α → Prop) : List α → Prop
  | [] => True
  | x :: earlier => (begins x ↔ ∀ y ∈ earlier.head?, ¬ begins y) ∧ Alternates begins earlier

instance Alternates.decidable (begins : α → Prop) [DecidablePred begins] :
    (l : List α) → Decidable (Alternates begins l)
  | [] => .isTrue trivial
  | x :: earlier =>
    have := Alternates.decidable begins earlier
    inferInstanceAs (Decidable ((begins x ↔ ∀ y ∈ earlier.head?, ¬ begins y) ∧ _))

theorem alternates_map {begins : β → Prop} {f : α → β} {l : List α} :
    Alternates begins (l.map f) ↔ Alternates (fun x => begins (f x)) l := by
  induction l with
  | nil => exact .rfl
  | cons x earlier ih => simp [Alternates, ih]

end Alternation

/-- The stages of a trace make its marks alternate: it is in a pass where the latest mark is a
beginning. -/
theorem passMarks_alternate {trace : List Effect} {stage : Stage}
    (accepted : stageAfter trace = some stage) :
    Alternates (· = .published .syncing) (passMarks trace) ∧
      (stage ≠ .idle ↔ (passMarks trace).head? = some (.published .syncing)) := by
  induction trace generalizing stage with
  | nil =>
    cases accepted
    exact ⟨trivial, by simp [passMarks]⟩
  | cons x earlier ih =>
    obtain ⟨before, accepted, next⟩ := stageAfter_cons_eq_some.mp accepted
    obtain ⟨alternate, inPass⟩ := ih accepted
    by_cases begins : ∃ now, x = .emitted (.statusChanged .syncing now)
    · -- Between passes the latest mark is an end, so a beginning may follow.
      obtain ⟨now, rfl⟩ := begins
      obtain ⟨rfl, rfl⟩ := Stage.next_begin.mp next
      have marks : passMarks (.emitted (.statusChanged .syncing now) :: earlier) =
          .published .syncing :: passMarks earlier := List.filterMap_cons_some rfl
      have ended : (passMarks earlier).head? ≠ some (.published .syncing) :=
        fun begun => inPass.mpr begun rfl
      rw [marks]
      refine ⟨⟨iff_of_true rfl ?_, alternate⟩, by simp⟩
      rintro mark latest rfl
      exact ended latest
    · cases ends : x.endsPass with
      | true =>
        -- Only a pass that has begun can end.
        obtain ⟨open_, rfl⟩ := Stage.next_of_endsPass ends next
        obtain ⟨mark, other, left⟩ := Effect.passMark?_of_endsPass ends
        rw [passMarks, List.filterMap_cons_some left]
        refine ⟨⟨iff_of_false other ?_, alternate⟩, by simp [other]⟩
        exact fun none => none _ (inPass.mp open_) rfl
      | false =>
        -- Within a pass and between two of them no marks are left.
        have silent := Effect.passMark?_of_inner ends (not_exists.mp begins)
        rw [passMarks, List.filterMap_cons_none silent]
        refine ⟨alternate, ?_⟩
        rw [ne_eq, ← Stage.next_of_inner ends (not_exists.mp begins) next]
        exact inPass

/-- A pass leaves exactly one mark when it begins and exactly one when it ends, so that the marks
alternate and the latest one is a beginning exactly while a pass is in progress. Unless it is ended
by a call that is never answered in an orderly way, the end is a status. So between passes the
latest status of a pass can only be the one with which it began where such a call has ended that
very pass; and where there are no such calls at all, the statuses alternate and between passes the
latest one never is that of a beginning. -/
theorem ended_pass_published_unless_panicked {e : Engine} (reached : Reached e) :
    Alternates (· = .published .syncing) (passMarks e.trace) ∧
    (e.isProcessing = true ↔ (passMarks e.trace).head? = some (.published .syncing)) ∧
    (e.isProcessing = false → (passStatuses e.trace).head? = some .syncing →
      ∃ earlier, passMarks e.trace = .panicked :: .published .syncing :: earlier) ∧
    ((∀ m, .answered m .panicked ∉ e.trace) →
      Alternates (· = .syncing) (passStatuses e.trace) ∧
      (e.isProcessing = false → (passStatuses e.trace).head? ≠ some .syncing)) := by
  obtain ⟨alternate, stage⟩ := passMarks_alternate reached.inStep
  have inPass : e.isProcessing = true ↔
      (passMarks e.trace).head? = some (.published .syncing) := by
    rw [← stage, Engine.isProcessing]
    cases e.pass <;> simp [Stage.ofPass]
  refine ⟨alternate, inPass, fun idle latest => ?_, fun orderly => ?_⟩
  · have ended : (passMarks e.trace).head? ≠ some (.published .syncing) := by
      rw [ne_eq, ← inPass, idle]
      simp
    rw [passStatuses_eq] at latest
    cases marks : passMarks e.trace with
    | nil => simp [marks] at latest
    | cons mark earlier =>
      rw [marks] at alternate latest ended
      cases mark with
      | published status =>
        obtain rfl : status = .syncing := by simpa [PassMark.status?] using latest
        exact absurd rfl ended
      | panicked =>
        -- What ends a pass follows its beginning.
        have follows : ¬ ∀ mark ∈ earlier.head?, mark ≠ .published .syncing :=
          mt alternate.1.mpr (by simp)
        cases earlier with
        | nil => simp at follows
        | cons mark earlier =>
          obtain rfl : mark = .published .syncing := by simpa using follows
          exact ⟨earlier, rfl⟩
  · rw [passMarks_of_orderly orderly] at alternate inPass
    refine ⟨by simpa using alternates_map.mp alternate, fun idle latest => ?_⟩
    have begun := inPass.mpr (by rw [List.head?_map, latest]; rfl)
    rw [idle] at begun
    cases begun

/-- The theorem at an engine of which one pass was ended by a call in disorder and the next one
could not list the queue. -/
theorem marks_of_broken_passes :
    passMarks Reached.sampleBroken.trace =
      [.published .error, .published .syncing, .panicked, .published .syncing] ∧
    Alternates (· = .published .syncing) (passMarks Reached.sampleBroken.trace) ∧
    (passMarks Reached.sampleBroken.trace).head? ≠ some (.published .syncing) := by
  have busy : Reached Reached.sampleBusy := Reached.sample_reached.through _
  have broken : Reached Reached.sampleBroken := ((busy.move _ _).store _).move _ _
  obtain ⟨alternate, inPass, -, -⟩ := ended_pass_published_unless_panicked broken
  have free : Reached.sampleBroken.isProcessing = false := by decide +kernel
  refine ⟨by decide +kernel, alternate, fun latest => ?_⟩
  rw [inPass.mpr latest] at free
  cases free

/-- A pass is over and its status is still in force; and with the next pass the same status is
published twice, without an end between. -/
theorem status_outlasts_panicked_pass :
    let e := (Reached.sampleBusy.perform .epoch (.answer .panicked)).1
    Reached e ∧ e.isProcessing = false ∧ (passStatuses e.trace).head? = some .syncing ∧
      Reached Reached.sampleBroken ∧
      ¬ Alternates (· = .syncing) (passStatuses Reached.sampleBroken.trace) := by
  have busy : Reached Reached.sampleBusy := Reached.sample_reached.through _
  exact ⟨busy.move _ _, by decide +kernel, by decide +kernel, ((busy.move _ _).store _).move _ _,
    by decide +kernel⟩

end Outbox
