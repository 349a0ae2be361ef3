import Outbox.Proofs.Steps
import Outbox.Proofs.Transactions

/-!
# Changes that nobody could count

One statement puts a mutation into the queue or takes it out, and the next one counts the queue. The
two are no transaction: where the count is refused the call fails, and the change stays. That is the
only way in which a call that fails leaves something behind. No event is emitted and no pass is
asked for in any case, as both wait for the count; and while the queue can be counted, a call that
fails has moved nothing.
-/
namespace Outbox

open Table Time

namespace Engine

/-- Nobody was told of what happened between two states of an engine: the log may have grown, but no
event was emitted and no pass was asked for. -/
structure Hushed (e e' : Engine) : Prop where
  trace : ∃ lines : List LogLine, e'.trace = lines.map .logged ++ e.trace
  notifier : e'.notifier = e.notifier
  requester : e'.requester = e.requester
  tasks : e'.tasks = e.tasks

theorem Unmoved.hushed {e e' : Engine} (unmoved : e.Unmoved e') : e.Hushed e' :=
  ⟨unmoved.trace, unmoved.notifier, unmoved.requester, unmoved.tasks⟩

/-- What is written into the database is no one's news. -/
theorem Hushed.setDatabase {e e' : Engine} (hushed : e.Hushed e') (db : Database) :
    e.Hushed (e'.setDatabase db) :=
  ⟨hushed.trace, hushed.notifier, hushed.requester, hushed.tasks⟩

/-- The rows of the queue were changed, and nothing else in the database that was opened for it. -/
def Changed (e e' : Engine) (now : Instant) (change : List Row → List Row) : Prop :=
  Database.Rewrites (e.opened now).database e'.database .queue
    (change ((e.opened now).database.rowsOf .queue))

/-- A call that succeeds has changed the queue. One that fails was silent, and it has moved nothing
unless the queue was changed and could not be counted then. -/
def ChangesQueue {α : Type} (e : Engine) (now : Instant) (change : List Row → List Row)
    (outcome : Engine × Except Error α) : Prop :=
  match outcome with
  | (e', .ok _) => e.Changed e' now change
  | (e', .error fault) =>
    e.Hushed e' ∧
      (e.Unmoved e' ∨ e.Changed e' now change ∧ e'.database.countMutations = .error fault)

namespace ChangesQueue

variable {α : Type} {e : Engine} {now : Instant} {change : List Row → List Row}
  {outcome : Engine × Except Error α} {fault : Error}

theorem of_ok (changes : e.ChangesQueue now change outcome) {x : α}
    (succeeded : outcome.2 = .ok x) : e.Changed outcome.1 now change := by
  obtain ⟨e', result⟩ := outcome
  obtain rfl := succeeded
  exact changes

theorem hushed (changes : e.ChangesQueue now change outcome) (failed : outcome.2 = .error fault) :
    e.Hushed outcome.1 := by
  obtain ⟨e', result⟩ := outcome
  obtain rfl := failed
  exact changes.1

/-- While no guard is in the way of counting the queue, a call that fails has moved nothing. -/
theorem unmoved (changes : e.ChangesQueue now change outcome)
    (countable : (e.opened now).database.Countable) (failed : outcome.2 = .error fault) :
    e.Unmoved outcome.1 := by
  obtain ⟨e', result⟩ := outcome
  obtain rfl := failed
  rcases changes.2 with unmoved | ⟨changed, refused⟩
  · exact unmoved
  · -- The change set no guard, so the queue could be counted after it too.
    obtain ⟨t, there⟩ := changed.present
    rw [(countable.fewer changed.guards).countMutations there] at refused
    cases refused

end ChangesQueue

/-- A statement that changes the queue, and the count after it. -/
theorem access_changesQueue {α : Type} {f : Database → Database × Except Error α} (e : Engine)
    (now : Instant) {change : List Row → List Row}
    (steps : ∀ db, (∃ fault, f db = (db, .error fault)) ∨
      ∃ db', Database.Rewrites db db' .queue (change (db.rowsOf .queue)) ∧
        ((∃ fault, f db = (db', .error fault) ∧ db'.countMutations = .error fault) ∨
          ∃ x, f db = (db', .ok x))) :
    e.ChangesQueue now change (e.access now f) := by
  have unmoved := unmoved_opened e now
  cases result : (e.storage.ensureOpen now).2.2 with
  | error fault =>
    -- No statement was made.
    rw [access_of_unopened result]
    exact ⟨unmoved.hushed, .inl unmoved⟩
  | ok =>
    have isOpen := isOpen_opened result
    rw [access_of_opened result]
    rcases steps (e.opened now).database with ⟨fault, run⟩ | ⟨db', changed, counted⟩
    · rw [run]
      have still := unmoved.setDatabase isOpen
      exact ⟨still.hushed, .inl still⟩
    · have holds := database_setDatabase isOpen db'
      rcases counted with ⟨fault, run, refused⟩ | ⟨x, run⟩
      · rw [run]
        refine ⟨unmoved.hushed.setDatabase db', .inr ⟨?_, ?_⟩⟩
        · rw [Changed, holds]
          exact changed
        · rw [holds]
          exact refused
      · rw [run, ChangesQueue, Changed, holds]
        exact changed

theorem enqueue_changesQueue (e : Engine) (m : Mutation) (now : Instant) :
    e.ChangesQueue now (added · m.toRow) (e.enqueue m now) := by
  have changes : e.ChangesQueue now (added · m.toRow) (e.access now fun db => db.enqueue m) := by
    refine e.access_changesQueue now fun db => ?_
    unfold Database.enqueue
    cases inserted : db.insertMutation m with
    | error fault => exact .inl ⟨fault, rfl⟩
    | ok db' =>
      refine .inr ⟨db', Database.rewrites_of_insert (Error.ofTable_eq_ok_iff.mp inserted), ?_⟩
      cases counted : db'.countMutations with
      | error fault => exact .inl ⟨fault, by simp only [counted], rfl⟩
      | ok pending => exact .inr ⟨pending, by simp only [counted]⟩
  unfold enqueue
  cases ran : e.access now fun db => db.enqueue m with
  | mk e' result =>
    rw [ran] at changes
    cases result with
    | error fault => exact changes
    | ok pending =>
      -- What is announced after the count is not written into the database.
      simp only [ChangesQueue, Changed, database_afterEnqueue, database_log]
      exact changes

theorem dequeue_changesQueue (e : Engine) (id : String) (now : Instant) :
    e.ChangesQueue now (without id) (e.dequeue id now) := by
  have changes : e.ChangesQueue now (without id) (e.access now fun db => db.dequeue id) := by
    refine e.access_changesQueue now fun db => ?_
    unfold Database.dequeue
    cases deleted : db.deleteMutation id with
    | error fault => exact .inl ⟨fault, rfl⟩
    | ok result =>
      obtain ⟨db', removed⟩ := result
      -- The removal stands, whether it can be counted or not.
      refine .inr ⟨db', Database.rewrites_of_deleteKey (Error.ofTable_eq_ok_iff.mp deleted), ?_⟩
      cases counted : db'.countMutations with
      | error fault => exact .inl ⟨fault, by simp only [counted]; rfl, rfl⟩
      | ok pending => exact .inr ⟨(removed, pending), by simp only [counted]; rfl⟩
  unfold dequeue
  cases ran : e.access now fun db => db.dequeue id with
  | mk e' result =>
    rw [ran] at changes
    cases result with
    | error fault => exact changes
    | ok found =>
      obtain ⟨removed, pending⟩ := found
      cases removed with
      | false => exact changes
      | true =>
        simp only [ChangesQueue, Changed, if_true, database_emit]
        exact changes

theorem purge_changesQueue (e : Engine) (id : String) (now : Instant) :
    e.ChangesQueue now (without id) (e.purge id now) := by
  have changes := e.dequeue_changesQueue id now
  unfold purge
  split
  next e' ran =>
    rw [ran] at changes
    simp only [ChangesQueue, Changed, database_log]
    exact changes
  next other _ => exact changes

end Engine

/-- Whatever the tables are and whichever statement is refused, opening the database included: where
queueing a mutation or removing one fails, no event was emitted and no pass was asked for, and
nothing was moved unless the change was written and then could not be counted. While no guard is in
the way of counting, nothing was moved at all. Where the call succeeds the change is written. -/
theorem failed_change_undone_unless_uncounted (e : Engine) (now : Instant) :
    (∀ m : Mutation, e.ChangesQueue now (added · m.toRow) (e.enqueue m now)) ∧
    (∀ id : String, e.ChangesQueue now (without id) (e.dequeue id now)) ∧
    (∀ id : String, e.ChangesQueue now (without id) (e.purge id now)) ∧
    ((e.opened now).database.Countable → ∀ fault,
      (∀ m, (e.enqueue m now).2 = .error fault → e.Unmoved (e.enqueue m now).1) ∧
      (∀ id, (e.dequeue id now).2 = .error fault → e.Unmoved (e.dequeue id now).1) ∧
      ∀ id, (e.purge id now).2 = .error fault → e.Unmoved (e.purge id now).1) := by
  refine ⟨fun m => e.enqueue_changesQueue m now, fun id => e.dequeue_changesQueue id now,
    fun id => e.purge_changesQueue id now, fun countable fault => ⟨?_, ?_, ?_⟩⟩
  · intro m failed
    exact (e.enqueue_changesQueue m now).unmoved countable failed
  · intro id failed
    exact (e.dequeue_changesQueue id now).unmoved countable failed
  · intro id failed
    exact (e.purge_changesQueue id now).unmoved countable failed

namespace Engine

/-- An engine with an empty queue that is guarded. -/
def sampleGuarded (g : Guard) : Engine :=
  (inMemory .default true).setDatabase
    { (inMemory .default true).database with queue := some ⟨[], [g]⟩ }

/-- The queue takes no mutation of the id. -/
def sampleClosed : Engine := sampleGuarded ⟨.insert, 0, .text "m1"⟩

/-- The queue takes a mutation of the id, and then it cannot be looked at. -/
def sampleUnreadable : Engine := sampleGuarded ⟨.read, 0, .text "m1"⟩

/-- The same change as another mutation, for a caller who tries again. -/
def sampleAgain : Mutation := { sampleChange with id := "m2" }

end Engine

/-- The theorem at a mutation that the queue does not take, and at one that it takes and then cannot
count. -/
theorem closed_queue_unmoved :
    (∃ fault, (Engine.sampleClosed.enqueue Engine.sampleChange .epoch).2 = .error fault) ∧
      Engine.sampleClosed.Unmoved (Engine.sampleClosed.enqueue Engine.sampleChange .epoch).1 ∧
      (∃ fault, (Engine.sampleUnreadable.enqueue Engine.sampleChange .epoch).2 = .error fault) ∧
      Engine.sampleUnreadable.Hushed
        (Engine.sampleUnreadable.enqueue Engine.sampleChange .epoch).1 := by
  have closed : (Engine.sampleClosed.enqueue Engine.sampleChange .epoch).2 =
      .error (.sqlite Table.Fault.forbidden) := rfl
  have unreadable : (Engine.sampleUnreadable.enqueue Engine.sampleChange .epoch).2 =
      .error (.sqlite Table.Fault.forbidden) := rfl
  have countable : (Engine.sampleClosed.opened .epoch).database.Countable := by decide +kernel
  obtain ⟨-, -, -, undone⟩ := failed_change_undone_unless_uncounted Engine.sampleClosed .epoch
  obtain ⟨changes, -⟩ := failed_change_undone_unless_uncounted Engine.sampleUnreadable .epoch
  exact ⟨⟨_, closed⟩, (undone countable _).1 _ closed, ⟨_, unreadable⟩,
    (changes _).hushed unreadable⟩

/-- Two calls fail, and the mutation is queued twice; one that removes it fails too, and it is
gone. -/
theorem queued_twice_by_failed_calls :
    (let first := Engine.sampleUnreadable.enqueue Engine.sampleChange .epoch
     let second := first.1.enqueue Engine.sampleAgain .epoch
     let third := second.1.dequeue "m2" .epoch
     Engine.sampleUnreadable.database.rowsOf .queue = [] ∧
       first.2 = .error (.sqlite Table.Fault.forbidden) ∧
       second.2 = .error (.sqlite Table.Fault.forbidden) ∧
       second.1.database.rowsOf .queue =
         [⟨1, Engine.sampleChange.toRow⟩, ⟨2, Engine.sampleAgain.toRow⟩] ∧
       third.2 = .error (.sqlite Table.Fault.forbidden) ∧
       third.1.database.rowsOf .queue = [⟨1, Engine.sampleChange.toRow⟩]) :=
  ⟨rfl, rfl, rfl, rfl, rfl, rfl⟩

end Outbox
