import Outbox.Proofs.Launch
import Outbox.Proofs.Statements
import Outbox.Proofs.Stock

/-!
# What an operation does to the database

All that an operation of an engine can do to the database in its store at once is listed here, be it
that the operation succeeds or that it fails. Of every such step it is said once what becomes of the
queue, and that no guard comes of it; what holds in every state of a run is concluded from that.

Most operations also tell how long the queue is when they are done. That is right whatever state the
database is in but one: where a row was added or removed and the rows cannot be counted then, the
operation fails and the change stays.
-/
namespace Outbox

open Table Time

/-! ## Steps -/

/-- What becomes of the rows of the queue at once. -/
inductive QueueStep (rows : List Row) : List Row → Prop where
  | kept : QueueStep rows rows
  | added (m : Mutation) : QueueStep rows (added rows m.toRow)
  | removed (id : String) : QueueStep rows (without id rows)
  | cleared : QueueStep rows []
  | retried (m : Mutation) : QueueStep rows (replaced [6, 7, 8] m.id m.toRow rows)

namespace Database

/-- What an operation of an engine can do to the database in its store at once, whether it succeeds
or fails. -/
inductive Step (db : Database) : Database → Prop where
  | prepare (now : Instant) : Step db (db.prepare now).1
  | enqueue (m : Mutation) : Step db (db.enqueue m).1
  | dequeue (id : String) : Step db (db.dequeue id).1
  | mutate (m : Mutation) (now : Instant) : Step db (db.mutate m now).1
  | bury (l : DeadLetter) : Step db (db.bury l).1
  | revive (id : String) (now : Instant) : Step db (db.revive id now).1
  | clear : Step db (db.atomically clearMutations).1
  | update (m : Mutation) : Step db (db.atomically fun db => db.updateRetryState m).1
  | discard (id : String) : Step db (db.atomically fun db => db.deleteDeadLetter id).1

/-- What several operations can do. -/
abbrev Steps : Database → Database → Prop := Relation.ReflTransGen Step

variable {db db' : Database}

/-- Migrations set no guards. -/
theorem FewerGuards.prepare (db : Database) (now : Instant) :
    FewerGuards db (db.prepare now).1 := by
  refine Migration.Steps.prepare ⟨refl, trans, fun db name => ?_, fun inserted => ?_⟩ db now
  · unfold Migration.ensure
    split
    · exact refl db
    · exact .set (fun g none => by cases none)
  · exact (rewrites_of_insert inserted).guards

/-- No step sets a guard, and each does one thing to the queue at most. -/
theorem Step.effect (step : db.Step db') :
    FewerGuards db db' ∧ QueueStep (db.rowsOf .queue) (db'.rowsOf .queue) := by
  have still : FewerGuards db db ∧ QueueStep (db.rowsOf .queue) (db.rowsOf .queue) :=
    ⟨.refl db, .kept⟩
  cases step with
  | prepare now => exact ⟨.prepare db now, (Keeps.prepare db now).rows .queue rfl ▸ .kept⟩
  | enqueue m =>
    -- The row stays, whether the rows can be counted afterwards or not.
    unfold Database.enqueue
    split
    · exact still
    next inserted =>
      have insert := rewrites_of_insert (Error.ofTable_eq_ok_iff.mp inserted)
      exact ⟨insert.guards, insert.rows ▸ .added m⟩
  | dequeue id =>
    unfold Database.dequeue
    split
    · exact still
    next deleted =>
      have delete := rewrites_of_deleteKey (Error.ofTable_eq_ok_iff.mp deleted)
      exact ⟨delete.guards, delete.rows ▸ .removed id⟩
  | mutate m now =>
    rcases db.mutate_cases m now with ⟨fault, run⟩ | ⟨after, _, run, guards, -, rows, -⟩
    · exact run ▸ still
    · exact run ▸ ⟨guards, rows ▸ .added m⟩
  | bury l =>
    rcases db.bury_cases l with ⟨fault, run⟩ | ⟨after, _, run, guards, -, -, rows⟩
    · exact run ▸ still
    · exact run ▸ ⟨guards, rows ▸ .removed l.mutation.id⟩
  | revive id now =>
    rcases db.revive_cases id now with ⟨fault, run⟩ | ⟨after, _, run, what⟩
    · exact run ▸ still
    · rcases what with ⟨-, rfl, -⟩ | ⟨m, _, -, -, guards, -, -, rows⟩
      · -- There was no dead letter of the id.
        exact run ▸ still
      · exact run ▸ ⟨guards, rows ▸ .added m⟩
  | clear =>
    rcases atomically_cases clearMutations db with ⟨fault, run⟩ | ⟨after, n, run, done⟩
    · exact run ▸ still
    · have delete := rewrites_of_delete (Error.ofTable_eq_ok_iff.mp done)
      have none : after.rowsOf .queue = [] := by simp [delete.rows]
      exact run ▸ ⟨delete.guards, none ▸ .cleared⟩
  | update m =>
    rcases atomically_cases (fun db => db.updateRetryState m) db with
      ⟨fault, run⟩ | ⟨after, found, run, done⟩
    · exact run ▸ still
    · have update := rewrites_of_update (Error.ofTable_eq_ok_iff.mp done)
      exact run ▸ ⟨update.guards, update.rows ▸ .retried m⟩
  | discard id =>
    rcases atomically_cases (fun db => db.deleteDeadLetter id) db with
      ⟨fault, run⟩ | ⟨after, found, run, done⟩
    · exact run ▸ still
    · have delete := rewrites_of_deleteKey (Error.ofTable_eq_ok_iff.mp done)
      exact run ▸ ⟨delete.guards, delete.others .queue (by simp) ▸ .kept⟩

/-- What every step keeps, all of them keep. -/
theorem Steps.keep {P : Database → Prop} (step : ∀ db db', Step db db' → P db → P db')
    (steps : db.Steps db') (start : P db) : P db' := by
  induction steps with
  | refl => exact start
  | tail _ last ih => exact step _ _ last ih

/-! ## Counting the rows -/

/-- How many mutations are queued. -/
def pending (db : Database) : Nat := (db.rowsOf .queue).length

/-- No guard keeps the rows of the queue from being counted. -/
def Countable (db : Database) : Prop :=
  ∀ t ∈ db.get? .queue, ∀ g ∈ t.guards, g.action ≠ .read

instance (db : Database) : Decidable db.Countable :=
  inferInstanceAs (Decidable (∀ t ∈ db.get? .queue, ∀ g ∈ t.guards, g.action ≠ .read))

theorem Countable.fewer (countable : db.Countable) (fewer : FewerGuards db db') :
    db'.Countable := by
  intro t' there g stands
  obtain ⟨t, there, stands⟩ := fewer .queue t' there g stands
  exact countable t there g stands

theorem Countable.countMutations (countable : db.Countable) {t : Table}
    (there : db.get? .queue = some t) : db.countMutations = .ok db.pending := by
  have free (cells : List Cell) : t.refuses .read cells = false := by
    simp only [Table.refuses, List.any_eq_false, Bool.and_eq_true, beq_iff_eq, not_and]
    exact fun g stands reads => absurd reads (countable t there g stands)
  have read : t.rowsWhere (fun _ => true) = .ok t.rows := by simp [Table.rowsWhere, free]
  have found : db.table .queue = .ok t := by rw [table, there]
  have counted : db.count .queue = .ok t.rows.length := by
    rw [count, found]
    change (t.rowsWhere (fun _ => true) >>= fun rows => pure rows.length) = _
    rw [read]
    rfl
  rw [pending, rowsOf_of_table found]
  exact Error.ofTable_eq_ok_iff.mpr counted

theorem Countable.steps (countable : db.Countable) (steps : db.Steps db') : db'.Countable :=
  steps.keep (fun _ _ step countable => countable.fewer step.effect.1) countable

/-- An operation on a database tells how long the queue is then; where it tells nothing, or fails,
the queue is as long as before. -/
def Tells {α : Type} (db : Database) (outcome : Database × Except Error α)
    (length : α → Option Nat) : Prop :=
  outcome.1.pending = (outcome.2.toOption.bind length).getD db.pending

namespace Tells

variable {α : Type} {length : α → Option Nat}

theorem of_failed (db : Database) (fault : Error) : db.Tells (db, .error fault) length := rfl

/-- Looking something up changes nothing. -/
theorem query (db : Database) (result : Except Error α) : db.Tells (db, result) fun _ => none := by
  cases result <;> rfl

theorem enqueue (countable : db.Countable) (m : Mutation) : db.Tells (db.enqueue m) some := by
  unfold Database.enqueue
  split
  next fault _ => exact of_failed db fault
  next db' inserted =>
    have insert := rewrites_of_insert (Error.ofTable_eq_ok_iff.mp inserted)
    obtain ⟨t, there⟩ := insert.present
    rw [(countable.fewer insert.guards).countMutations there]
    rfl

theorem dequeue (countable : db.Countable) (id : String) :
    db.Tells (db.dequeue id) fun found => if found.1 then some found.2 else none := by
  unfold Database.dequeue
  split
  next fault _ => exact of_failed db fault
  next db' removed deleted =>
    have delete := rewrites_of_deleteKey (Error.ofTable_eq_ok_iff.mp deleted)
    have found := found_of_deleteKey (Error.ofTable_eq_ok_iff.mp deleted)
    obtain ⟨t, there⟩ := delete.present
    rw [(countable.fewer delete.guards).countMutations there]
    cases removed with
    | true => rfl
    | false =>
      -- Nothing had the id, so the queue is as it was.
      have absent : .text id ∉ keysOf (db.rowsOf .queue) := by simp [← any_hasKey, ← found]
      exact congrArg List.length (delete.rows.trans (without_of_absent absent))

theorem mutate (db : Database) (m : Mutation) (now : Instant) :
    db.Tells (db.mutate m now) some := by
  rcases db.mutate_cases m now with ⟨fault, run⟩ | ⟨db', pending, run, -, counted, -⟩
  · exact run ▸ of_failed db fault
  · exact run ▸ counted.symm

theorem bury (db : Database) (l : DeadLetter) : db.Tells (db.bury l) some := by
  rcases db.bury_cases l with ⟨fault, run⟩ | ⟨db', pending, run, -, counted, -⟩
  · exact run ▸ of_failed db fault
  · exact run ▸ counted.symm

theorem revive (db : Database) (id : String) (now : Instant) :
    db.Tells (db.revive id now) fun revived => revived.map (·.2) := by
  rcases db.revive_cases id now with ⟨fault, run⟩ | ⟨db', x, run, what⟩
  · exact run ▸ of_failed db fault
  · rcases what with ⟨rfl, rfl, -⟩ | ⟨m, pending, rfl, -, -, counted, -⟩
    · exact run ▸ rfl
    · exact run ▸ counted.symm

/-- A statement on its own. -/
theorem atomically {f : Database → Except Error (Database × α)}
    (done : ∀ db' x, f db = .ok (db', x) → db.Tells (db', .ok x) length) :
    db.Tells (db.atomically f) length := by
  rcases atomically_cases f db with ⟨fault, run⟩ | ⟨db', x, run, ran⟩
  · exact run ▸ of_failed db fault
  · exact run ▸ done db' x ran

theorem clear (db : Database) :
    db.Tells (db.atomically Database.clearMutations) fun _ => some 0 := by
  refine atomically fun db' n done => ?_
  have none : db'.rowsOf .queue = [] := by
    simp [(rewrites_of_delete (Error.ofTable_eq_ok_iff.mp done)).rows]
  exact congrArg List.length none

theorem update (db : Database) (m : Mutation) :
    db.Tells (db.atomically fun db => db.updateRetryState m) fun _ => none := by
  refine atomically fun db' found done => ?_
  have rows := (rewrites_of_update (Error.ofTable_eq_ok_iff.mp done)).rows
  change (db'.rowsOf .queue).length = (db.rowsOf .queue).length
  rw [rows, replaced, List.length_map]

theorem deleteDeadLetter (db : Database) (id : String) :
    db.Tells (db.atomically fun db => db.deleteDeadLetter id) fun _ => none := by
  refine atomically fun db' found done => ?_
  have delete := rewrites_of_deleteKey (Error.ofTable_eq_ok_iff.mp done)
  exact congrArg List.length (delete.others .queue (by simp))

end Tells

end Database

end Outbox
