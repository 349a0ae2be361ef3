import Outbox.Proofs.Signals
import Outbox.Proofs.Uncounted

/-!
# The announced length of the queue

Whoever shows how much waits to be delivered relies on the lengths that are announced, so the
latest of them has to be right at any time. Every act announces the length that it leaves, or leaves
the length that it found; of that the rest follows. The store may be in any state for that but one:
where a row was added or removed and the rows cannot be counted then, the operation fails and the
change stays.
-/
namespace Outbox

open Time

namespace Engine.Recounts

variable {topics : List Topic} {e e' : Engine}

/-- A length that fits is followed by one that fits. -/
theorem fits (recounts : Recounts none topics e e') (countable : e.storage.content.Countable)
    (before : ∀ n ∈ badge e.trace, n = e.pending) : ∀ n ∈ badge e'.trace, n = e'.pending := by
  obtain ⟨told, trace, pending⟩ := recounts.counted countable
  intro n latest
  rw [trace, badge_append] at latest
  rw [Option.none_or] at pending
  rw [pending]
  cases since : badge told with
  | none =>
    rw [since, Option.none_or] at latest
    exact before n latest
  | some length =>
    rw [since] at latest
    cases latest
    rfl

/-- Another length than before is announced. -/
theorem announced (recounts : Recounts none topics e e')
    (countable : e.storage.content.Countable) (changed : e'.pending ≠ e.pending) :
    ∃ told, e'.trace = told ++ e.trace ∧ badge told = some e'.pending := by
  obtain ⟨told, trace, pending⟩ := recounts.counted countable
  rw [Option.none_or] at pending
  refine ⟨told, trace, ?_⟩
  cases since : badge told with
  | none =>
    rw [since] at pending
    exact absurd pending changed
  | some length => rw [pending, since, Option.getD_some]

end Engine.Recounts

/-- Whatever is done with an engine, whether it succeeds or fails, and however answers and other
operations alternate: the length of the queue that was announced last is the length that it has, and
any further act that changes the length announces the new one before it ends. Whether rows may be
added, changed or removed is up to the store; that they may be counted is taken for granted, since a
refused count leaves an insertion that was made before it. -/
theorem announced_length_is_pending {e : Engine} (countable : e.storage.content.Countable)
    (fits : ∀ n ∈ badge e.trace, n = e.pending) (acts : List (Instant × Act)) :
    (∀ n ∈ badge (e.afterActs acts).trace, n = (e.afterActs acts).pending) ∧
      ∀ now a, ((e.afterActs acts).act now a).pending ≠ (e.afterActs acts).pending →
        ∃ told, ((e.afterActs acts).act now a).trace = told ++ (e.afterActs acts).trace ∧
          badge told = some ((e.afterActs acts).act now a).pending := by
  have recounts := e.recounts_afterActs acts
  have countable' := countable.steps recounts.content
  exact ⟨recounts.fits countable fits, fun now a =>
    ((e.afterActs acts).recounts_act now a).announced countable'⟩

namespace Badge

def sampleKept : Change := ⟨"m1", .create, .incidents, "i1", .obj [("open", .bool true)]⟩

def sampleGone : Change := ⟨"m2", .update, .incidents, "i2", .obj [("open", .bool true)]⟩

/-- Two changes are queued and the second one is removed while the first one is being sent. -/
def sampleActs : List (Instant × Act) :=
  [.move (.enqueue sampleKept), .move (.mutate sampleGone), .move .process, .dequeue "m2"].map
    fun a => (.epoch, a)

def sampleSent : Engine := (Engine.inMemory ⟨3⟩ true).afterActs sampleActs

end Badge

/-- The theorem at a change that is confirmed after another one was removed behind its back. -/
theorem confirmation_announces_empty_queue :
    badge Badge.sampleSent.trace = some 1 ∧ Badge.sampleSent.pending = 1 ∧
      ∃ told, (Badge.sampleSent.act .epoch (.move (.answer .confirmed))).trace =
          told ++ Badge.sampleSent.trace ∧
        badge told = some 0 := by
  obtain ⟨fits, announces⟩ := announced_length_is_pending
    (show (Engine.inMemory ⟨3⟩ true).storage.content.Countable by decide +kernel)
    (by decide +kernel) Badge.sampleActs
  have latest : badge Badge.sampleSent.trace = some 1 := by decide +kernel
  have empty : (Badge.sampleSent.act .epoch (.move (.answer .confirmed))).pending = 0 := by
    decide +kernel
  have one : Badge.sampleSent.pending = 1 := (fits 1 latest).symm
  obtain ⟨told, trace, announced⟩ := announces .epoch (.move (.answer .confirmed))
    (by rw [show (Engine.inMemory ⟨3⟩ true).afterActs Badge.sampleActs = Badge.sampleSent from rfl,
      empty, one]; decide)
  exact ⟨latest, one, told, trace, empty ▸ announced⟩

namespace Badge

/-- A change that the queue takes, and then the queue cannot be looked at. -/
def sampleHidden : Change := ⟨"m3", .create, .incidents, "i3", .obj [("open", .bool true)]⟩

/-- An engine whose queue cannot be looked at while that change is in it, after two others. -/
def sampleListed : Engine :=
  (Engine.sampleGuarded ⟨.read, 0, .text "m3"⟩).afterActs
    ([.move (.enqueue sampleKept), .move (.enqueue sampleGone)].map fun a => (.epoch, a))

end Badge

/-- Where the rows cannot be counted, one is added and later two are removed, and no length is
announced: the latest one is still two while one row is left. -/
theorem uncounted_length_not_announced :
    (let three := Badge.sampleListed.act .epoch (.move (.enqueue Badge.sampleHidden))
     let one := (three.act .epoch (.dequeue "m1")).act .epoch (.dequeue "m2")
     badge Badge.sampleListed.trace = some 2 ∧ Badge.sampleListed.pending = 2 ∧
       three.pending = 3 ∧ three.trace.filterMap Effect.length? =
         Badge.sampleListed.trace.filterMap Effect.length? ∧
       one.pending = 1 ∧ badge one.trace = some 2) := by
  decide +kernel

end Outbox
