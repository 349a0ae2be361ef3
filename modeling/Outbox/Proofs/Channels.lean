import Mathlib.Data.List.Basic
import Outbox.Channel

/-!
# Receivers that are behind

A channel forgets all but its latest messages, so a receiver may miss some of them, but not the
latest one: whoever is behind reads that last, however the messages are taken in.
-/
namespace Outbox

namespace Channel

variable {α : Type} {c : Channel α} {position : Nat}

/-- A channel always has room for a message. -/
theorem capacity_ofCapacity (n : Nat) : (ofCapacity n : Channel α).capacity ≠ 0 :=
  Nat.ne_of_gt (Nat.pos_of_isPowerOfTwo (Nat.isPowerOfTwo_nextPowerOfTwo _))

theorem sent_send (receivers : c.receivers ≠ 0) (x : α) : (c.send x).sent = c.sent + 1 := by
  rw [send, if_neg receivers]

/-- The latest message is kept whatever falls out of the channel. -/
theorem getLast?_recent_send (receivers : c.receivers ≠ 0) (capacity : c.capacity ≠ 0) (x : α) :
    (c.send x).recent.getLast? = some x := by
  rw [send, if_neg receivers]
  simp only [List.getLast?_drop, List.getLast?_append, List.getLast?_singleton, Option.some_or]
  rw [if_neg (by simp only [List.length_append, List.length_singleton]; omega)]

/-- A channel keeps no more than was sent. -/
theorem kept_send (kept : c.recent.length ≤ c.sent) (x : α) :
    (c.send x).recent.length ≤ (c.send x).sent := by
  unfold send
  split
  · exact kept
  · simp only [List.length_drop, List.length_append, List.length_singleton]
    omega

/-! ## All that waits -/

/-- A receiver that is behind reads the latest message last. -/
theorem getLast?_receive {x : α} (latest : c.recent.getLast? = some x)
    (behind : position < c.sent) : (c.receive position).getLast? = some (.message x) := by
  have some_kept : 0 < c.recent.length := by
    cases kept : c.recent with
    | nil => simp [kept] at latest
    | cons _ _ => exact Nat.zero_lt_succ _
  have last : ((c.recent.drop (position - (c.sent - c.recent.length))).map
      Received.message).getLast? = some (.message x) := by
    -- Less than all that is kept is skipped, so the last message is among what is read.
    rw [List.getLast?_map, List.getLast?_drop, if_neg (by omega), latest]
    rfl
  simp only [receive]
  split
  · exact last
  · rw [List.getLast?_cons, last]
    rfl

/-- A receiver that has reached the end gets nothing. -/
theorem receive_sent (kept : c.recent.length ≤ c.sent) : c.receive c.sent = [] := by
  have none : c.recent.drop (c.sent - (c.sent - c.recent.length)) = [] :=
    List.drop_eq_nil_of_le (by omega)
  have caught : c.sent - c.recent.length - c.sent = 0 := by omega
  simp only [receive, caught, if_true, none, List.map_nil]

/-! ## One report after the other -/

/-- The number of the oldest message that is kept. -/
def oldest (c : Channel α) : Nat := c.sent - c.recent.length

/-- What a receiver at a position gets next, if anything waits for it, and where it stands then. -/
def next? (c : Channel α) (position : Nat) : Option (Received α × Nat) :=
  if position < c.oldest then some (.lagged (c.oldest - position), c.oldest)
  else c.recent[position - c.oldest]?.map fun x => (.message x, position + 1)

/-- A receiver is told what it missed and goes on to the oldest message that is kept, or it gets the
message that it stands at. -/
theorem next?_cases {report : Received α} {place : Nat}
    (next : c.next? position = some (report, place)) :
    (position < c.oldest ∧ report = .lagged (c.oldest - position) ∧ place = c.oldest) ∨
      ∃ bound : position - c.oldest < c.recent.length,
        c.oldest ≤ position ∧ report = .message c.recent[position - c.oldest] ∧
          place = position + 1 := by
  unfold next? at next
  split at next
  next missed =>
    cases next
    exact .inl ⟨missed, rfl, rfl⟩
  next caught =>
    obtain ⟨x, there, made⟩ := Option.map_eq_some_iff.mp next
    obtain ⟨bound, rfl⟩ := List.getElem?_eq_some_iff.mp there
    cases made
    exact .inr ⟨bound, Nat.le_of_not_lt caught, rfl, rfl⟩

/-- Nothing waits for a receiver exactly if it has reached the end. -/
theorem next?_eq_none_iff (kept : c.recent.length ≤ c.sent) (reached : position ≤ c.sent) :
    c.next? position = none ↔ position = c.sent := by
  have place : c.oldest + c.recent.length = c.sent := Nat.sub_add_cancel kept
  unfold next?
  split
  · simp only [reduceCtorEq, false_iff]
    omega
  · rw [Option.map_eq_none_iff, List.getElem?_eq_none_iff]
    omega

/-- A receiver goes on, but not beyond the end, and the message with which it gets there is the
latest one. -/
theorem next?_advances {report : Received α} {place : Nat} (kept : c.recent.length ≤ c.sent)
    (next : c.next? position = some (report, place)) :
    position < place ∧ place ≤ c.sent ∧
      ∀ latest, c.recent.getLast? = some latest → place = c.sent → report = .message latest := by
  have ends : c.oldest + c.recent.length = c.sent := Nat.sub_add_cancel kept
  rcases next?_cases next with ⟨missed, rfl, rfl⟩ | ⟨bound, caught, rfl, rfl⟩
  · refine ⟨missed, by omega, fun latest last whole => ?_⟩
    -- A channel that keeps a message has its oldest one before the end.
    have none : c.recent = [] := List.eq_nil_of_length_eq_zero (by omega)
    rw [none] at last
    cases last
  · refine ⟨Nat.lt_succ_self position, by omega, fun latest last whole => ?_⟩
    have same : position - c.oldest = c.recent.length - 1 := by omega
    rw [List.getLast?_eq_getElem?, ← same, List.getElem?_eq_getElem bound] at last
    rw [Option.some.inj last]

/-- What is received in one go begins with what is received next. -/
theorem receive_of_next? {report : Received α} {place : Nat}
    (next : c.next? position = some (report, place)) :
    c.receive position = report :: c.receive place := by
  have receive_eq (place : Nat) : c.receive place =
      if c.oldest - place = 0 then (c.recent.drop (place - c.oldest)).map .message
      else .lagged (c.oldest - place) :: (c.recent.drop (place - c.oldest)).map .message := rfl
  rw [receive_eq, receive_eq]
  rcases next?_cases next with ⟨missed, rfl, rfl⟩ | ⟨bound, caught, rfl, rfl⟩
  · rw [if_neg (by omega), if_pos (Nat.sub_self _), Nat.sub_self,
      Nat.sub_eq_zero_of_le (Nat.le_of_lt missed)]
  · rw [if_pos (by omega), if_pos (by omega), List.drop_eq_getElem_cons bound, List.map_cons,
      Nat.succ_sub caught]

/-- What is received in one go is what is received one after the other, until nothing waits. -/
theorem receive_induction {motive : Nat → List (Received α) → Prop}
    (kept : c.recent.length ≤ c.sent) {position : Nat} (reached : position ≤ c.sent)
    (ended : motive c.sent [])
    (goesOn : ∀ position report place, c.next? position = some (report, place) →
      motive place (c.receive place) → motive position (report :: c.receive place)) :
    motive position (c.receive position) := by
  cases next : c.next? position with
  | none =>
    obtain rfl := (next?_eq_none_iff kept reached).mp next
    exact receive_sent kept ▸ ended
  | some received =>
    obtain ⟨report, place⟩ := received
    obtain ⟨onward, within, -⟩ := next?_advances kept next
    rw [receive_of_next? next]
    exact goesOn position report place next (receive_induction kept within ended goesOn)
termination_by c.sent - position
decreasing_by exact Nat.sub_lt_sub_left (Nat.lt_of_lt_of_le onward within) onward

end Channel

end Outbox
