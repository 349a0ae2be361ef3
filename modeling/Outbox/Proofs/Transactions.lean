import Outbox.Proofs.Copies
import Outbox.Proofs.Statements

/-!
# All or nothing

Something may stand in the way of every statement: its table is missing, a guard refuses it, its key
is taken, or the transaction cannot be committed. Nothing is known about the tables here. What an
operation has done is read off its statements. If one of them fails, the database is the one with
which the operation began, and as events and requests come after the transaction there are none.
-/
namespace Outbox

open Table Time

/-! ## Written rows -/

/-- A row of the id is there, and if it is as wide as the cells that were written, it consists of
them. -/
def Table.Written (rows : List Row) (id : String) (cells : List Cell) : Prop :=
  ∃ r ∈ rows, r.hasKey id = true ∧ (r.cells.length = cells.length → r.cells = cells)

namespace Table.Written

variable {rows : List Row} {x : EntityRecord}

theorem of_overwrite {r : Row} (keyed : r.hasKey x.id = true) :
    (r.overwrite [1, 2] x.toRow).hasKey x.id = true ∧
      ((r.overwrite [1, 2] x.toRow).cells.length = x.toRow.length →
        (r.overwrite [1, 2] x.toRow).cells = x.toRow) := by
  have key := Row.hasKey_iff.mp keyed
  refine ⟨Row.hasKey_iff.mpr ?_, fun wide => ?_⟩
  · rw [Row.cell_overwrite_of_kept rfl (Nat.zero_lt_succ _), key]
  · obtain ⟨number, cells⟩ := r
    -- Nothing is written beyond the end of the row.
    match cells with
    | [] | [_] | [_, _] => simp [Row.overwrite, replaceAt, EntityRecord.toRow] at wide
    | a :: b :: c :: rest =>
      have first : a = .text x.id := key
      simp [Row.overwrite, replaceAt, EntityRecord.toRow, first]

theorem upserted (rows : List Row) (x : EntityRecord) :
    Written (upserted [1, 2] x.id x.toRow rows) x.id x.toRow := by
  unfold Table.upserted
  split
  next taken =>
    obtain ⟨r, member, keyed⟩ := List.any_eq_true.mp taken
    refine ⟨r.overwrite [1, 2] x.toRow, List.mem_map.mpr ⟨r, member, if_pos keyed⟩, ?_⟩
    exact of_overwrite keyed
  · exact ⟨_, List.mem_append_right _ List.mem_cons_self, Row.hasKey_iff.mpr rfl, fun _ => rfl⟩

/-- What is written to one id does not touch another one. -/
theorem upserted_of_ne {id : String} {cells : List Cell} (written : Written rows id cells)
    (ne : x.id ≠ id) : Written (Table.upserted [1, 2] x.id x.toRow rows) id cells := by
  obtain ⟨r, member, keyed, same⟩ := written
  refine ⟨r, ?_, keyed, same⟩
  unfold Table.upserted
  split
  · have other : ¬ r.hasKey x.id = true := by
      rw [Row.hasKey_iff, Row.hasKey_iff.mp keyed]
      exact fun same => ne (Cell.text.inj same).symm
    exact List.mem_map.mpr ⟨r, member, if_neg other⟩
  · exact List.mem_append_left _ member

/-- Of records that are stored one after the other the last one of an id is there. -/
theorem rowsWith {records : List EntityRecord} {id : String}
    (last : records.reverse.find? (·.id == id) = some x) :
    Written (Database.rowsWith records rows) id x.toRow := by
  -- The last record of an id counts, so the records are taken from the end.
  induction records using List.reverseRecOn with
  | nil => cases last
  | append_singleton records y ih =>
    have after : Database.rowsWith (records ++ [y]) rows =
        Table.upserted [1, 2] y.id y.toRow (Database.rowsWith records rows) :=
      List.foldl_concat ..
    rw [after]
    rw [List.reverse_concat, List.find?_cons] at last
    by_cases same : y.id = id
    · subst same
      rw [beq_self_eq_true] at last
      cases last
      exact upserted _ _
    · rw [beq_false_of_ne same] at last
      exact (ih last).upserted_of_ne same

end Table.Written

/-- The change of a mutation is in the rows of a collection: what it writes is there, and what it
deletes is not. -/
def Mutation.MadeIn (m : Mutation) (now : Instant) (rows : List Row) : Prop :=
  match m.operation with
  | .create | .update => Written rows m.entityId (EntityRecord.toRow ⟨m.entityId, m.payload, now⟩)
  | .delete => .text m.entityId ∉ keysOf rows

theorem Mutation.madeIn_rowsAfter (m : Mutation) (now : Instant) (rows : List Row) :
    m.MadeIn now (Database.rowsAfter m now rows) := by
  unfold Mutation.MadeIn Database.rowsAfter
  cases m.operation with
  | delete => exact fun there => (mem_keysOf_without.mp there).2 rfl
  | _ => exact Written.upserted rows ⟨m.entityId, m.payload, now⟩

namespace Database

/-- A mutation is queued, and its change is made in the local copy. -/
def HasMade (db : Database) (m : Mutation) (now : Instant) : Prop :=
  (∃ r ∈ db.rowsOf .queue, r.cells = m.toRow) ∧ m.MadeIn now (db.rowsOf (.collection m.kind))

/-- There is a dead letter of the id, and no mutation of it is queued. -/
def HasBuried (db : Database) (id : String) : Prop :=
  .text id ∈ keysOf (db.rowsOf .deadLetters) ∧ .text id ∉ keysOf (db.rowsOf .queue)

/-- A mutation of the id is queued, and there is no dead letter of it. -/
def HasRevived (db : Database) (id : String) (m : Mutation) : Prop :=
  m.id = id ∧ (∃ r ∈ db.rowsOf .queue, r.cells = m.toRow) ∧
    .text id ∉ keysOf (db.rowsOf .deadLetters)

/-- All records are in their collection; of those that have one id it is the last. -/
def HasStored (db : Database) (kind : EntityKind) (records : List EntityRecord) : Prop :=
  ∀ id x, records.reverse.find? (·.id == id) = some x →
    Written (db.rowsOf (.collection kind)) id x.toRow

end Database

/-! ## Engines -/

/-- What is in a place that is not open. -/
def Location.content (disk : Disk) : Location → Database
  | .memory => .empty
  | .file path => (disk.database? (Disk.fullPath path)).getD .empty

/-- What is in the place of a store, whether it is open or not. -/
def Storage.content (s : Storage) : Database :=
  match s.connection with
  | some _ => (s.database?).getD .empty
  | none => s.location.content s.disk

namespace Storage

variable {s s' : Storage} {now : Instant}

theorem content_of_isOpen (isOpen : s.isOpen = true) :
    s.content = (s.database?).getD .empty := by
  unfold content
  cases linked : s.connection with
  | none => simp [Storage.isOpen, linked] at isOpen
  | some connection => rfl

theorem location_setDatabase (s : Storage) (db : Database) :
    (s.setDatabase db).location = s.location := by
  unfold setDatabase
  split <;> rfl

/-- Connecting changes nothing but the disk. -/
theorem connect_kept (s : Storage) :
    s.connect.1.connection = s.connection ∧ s.connect.1.location = s.location := by
  unfold connect
  split
  · exact ⟨rfl, rfl⟩
  · simp only
    split
    · exact ⟨rfl, rfl⟩
    · split
      · exact ⟨rfl, rfl⟩
      · split <;> exact ⟨rfl, rfl⟩

/-- A store that could not be opened is closed, in the same place. -/
theorem closed_of_failed {lines : List LogLine} {fault : Error}
    (failed : s.ensureOpen now = (s', lines, .error fault)) :
    s'.connection = none ∧ s'.location = s.location := by
  unfold ensureOpen at failed
  split at failed
  · -- A store that is open does not fail to open.
    cases failed
  next shut =>
    have unlinked : s.connection = none := by simpa [Storage.isOpen] using shut
    have kept := connect_kept s
    split at failed
    · cases failed
    next fresh =>
      cases failed
      unfold openFresh at fresh
      split at fresh
      next failed =>
        cases fresh
        rw [failed] at kept
        exact ⟨kept.1.trans unlinked, kept.2⟩
      next linked =>
        rw [linked] at kept
        simp only at fresh
        split at fresh
        · cases fresh
          exact ⟨rfl, (location_setDatabase _ _).trans kept.2⟩
        · cases fresh

/-- Opening a store prepares the database that is in its place, or leaves it as it is. -/
theorem content_ensureOpen_cases (s : Storage) (now : Instant) :
    (s.ensureOpen now).1.content = s.content ∨
      (s.ensureOpen now).1.content = (s.content.prepare now).1 := by
  by_cases isOpen : s.isOpen = true
  · exact .inl (by rw [ensureOpen, if_pos isOpen])
  · have unlinked : s.connection = none := by simpa [Storage.isOpen] using isOpen
    obtain ⟨disk, location, connection⟩ := s
    obtain rfl := unlinked
    cases location with
    | memory =>
      obtain ⟨db, lines, prepared, -⟩ := Database.prepare_empty now
      have place : content ⟨disk, .memory, none⟩ = .empty := rfl
      simp only [place, ensureOpen, openFresh, connect, Storage.isOpen, database?,
        Option.isSome_none, Bool.false_eq_true, if_false, Option.getD_some, prepared]
      exact .inr rfl
    | file path =>
      obtain ⟨s', lines, result, run, what⟩ := ensureOpen_file disk path now
      -- Whether it is open or not, what is in the file is what is in its place.
      have after : s'.content = (s'.disk.database? (Disk.fullPath path)).getD .empty := by
        cases result with
        | error fault =>
          obtain ⟨unlinked, place⟩ := closed_of_failed run
          rw [content, unlinked, place]
          rfl
        | ok =>
          rcases what with ⟨-, fault, none⟩ | ⟨-, linked⟩
          · cases none
          · have link := linked rfl
            rw [content_of_isOpen (isOpen_of_link (by rw [link]; rfl)), database?_of_link link]
            rfl
      rw [show (ensureOpen ⟨disk, .file path, none⟩ now).1 = s' from congrArg Prod.fst run, after]
      rcases what with ⟨same, -⟩ | ⟨prepared, -⟩
      · rw [same]
        exact .inl rfl
      · rw [prepared]
        exact .inr rfl

/-- Opening a store keeps the tables that are in its place. -/
theorem content_ensureOpen (s : Storage) (now : Instant) :
    s.content.Keeps (s.ensureOpen now).1.content := by
  rcases s.content_ensureOpen_cases now with same | prepared
  · rw [same]
    exact .refl _
  · rw [prepared]
    exact .prepare _ now

end Storage

namespace Engine

/-- Nothing has happened between two states of an engine, but that the store may have been opened
and the log tells so: the tables that were there are as they were, the whole database is if the
store was open, no event was emitted and no pass was asked for. -/
structure Unmoved (e e' : Engine) : Prop where
  tables : e.storage.content.Keeps e'.storage.content
  database : e.storage.isOpen = true → e'.storage.content = e.storage.content
  trace : ∃ lines : List LogLine, e'.trace = lines.map .logged ++ e.trace
  notifier : e'.notifier = e.notifier
  requester : e'.requester = e.requester
  tasks : e'.tasks = e.tasks

/-- The engine after its store was opened, unless it is open, and nothing else was done. -/
def opened (e : Engine) (now : Instant) : Engine :=
  logAll { e with storage := (e.storage.ensureOpen now).1 } (e.storage.ensureOpen now).2.1

theorem opened_eq (e : Engine) (now : Instant) :
    e.opened now =
      { e with
        storage := (e.storage.ensureOpen now).1
        trace := (e.storage.ensureOpen now).2.1.reverse.map .logged ++ e.trace } :=
  logAll_eq _ _

theorem unmoved_opened (e : Engine) (now : Instant) : e.Unmoved (e.opened now) := by
  rw [opened_eq]
  refine ⟨Storage.content_ensureOpen e.storage now, fun isOpen => ?_,
    ⟨_, rfl⟩, rfl, rfl, rfl⟩
  rw [Storage.ensureOpen, if_pos isOpen]

/-- The engine with another database in its store. -/
def setDatabase (e : Engine) (db : Database) : Engine :=
  { e with storage := e.storage.setDatabase db }

theorem database_setDatabase {e : Engine} (isOpen : e.storage.isOpen = true) (db : Database) :
    (e.setDatabase db).database = db := by
  rw [database, setDatabase, Storage.database?_setDatabase isOpen]
  rfl

theorem content_setDatabase {e : Engine} (isOpen : e.storage.isOpen = true) (db : Database) :
    (e.setDatabase db).storage.content = db := by
  have still : (e.storage.setDatabase db).isOpen = true := by
    refine Storage.isOpen_of_link ?_
    rw [Storage.link_setDatabase, Storage.link, Option.isSome_map]
    exact isOpen
  rw [setDatabase, Storage.content_of_isOpen still, Storage.database?_setDatabase isOpen]
  rfl

/-- The database that is there may be written back. -/
theorem Unmoved.setDatabase {e e' : Engine} (unmoved : e.Unmoved e')
    (isOpen : e'.storage.isOpen = true) : e.Unmoved (e'.setDatabase e'.database) := by
  have content : (e'.setDatabase e'.database).storage.content = e'.storage.content := by
    rw [content_setDatabase isOpen, Storage.content_of_isOpen isOpen]
    rfl
  refine ⟨?_, fun before => ?_, unmoved.trace, unmoved.notifier, unmoved.requester, unmoved.tasks⟩
  · rw [content]
    exact unmoved.tables
  · rw [content]
    exact unmoved.database before

theorem access_of_unopened {α : Type} {e : Engine} {now : Instant} {fault : Error}
    (failed : (e.storage.ensureOpen now).2.2 = .error fault)
    (f : Database → Database × Except Error α) :
    e.access now f = (e.opened now, .error fault) := by
  simp only [access, failed]
  rfl

/-- A store that did not fail to open is open. -/
theorem isOpen_opened {e : Engine} {now : Instant}
    (succeeded : (e.storage.ensureOpen now).2.2 = .ok ()) :
    (e.opened now).storage.isOpen = true := by
  rw [opened_eq]
  exact Storage.isOpen_of_link (Storage.link_of_ensureOpen (by rw [← succeeded]))

theorem access_of_opened {α : Type} {e : Engine} {now : Instant}
    (succeeded : (e.storage.ensureOpen now).2.2 = .ok ())
    (f : Database → Database × Except Error α) :
    e.access now f =
      ((e.opened now).setDatabase (f (e.opened now).database).1,
        (f (e.opened now).database).2) := by
  simp only [access, succeeded, setDatabase, database, opened_eq, logAll_eq]

/-- Statements run on what is in the place of the store once it is open, unless it fails to open. -/
theorem access_content_cases {α : Type} (e : Engine) (now : Instant)
    (f : Database → Database × Except Error α) :
    ((e.access now f).1.storage.content = (e.opened now).storage.content ∧
        ∃ fault, (e.access now f).2 = .error fault) ∨
      f (e.opened now).storage.content =
        ((e.access now f).1.storage.content, (e.access now f).2) := by
  cases result : (e.storage.ensureOpen now).2.2 with
  | error fault =>
    rw [access_of_unopened result]
    exact .inl ⟨rfl, fault, rfl⟩
  | ok =>
    have isOpen := isOpen_opened result
    rw [access_of_opened result, content_setDatabase isOpen, Storage.content_of_isOpen isOpen]
    exact .inr rfl

/-- Statements that fail leave the database as it is, and otherwise do something; they run on a
database that is opened for them. If either fails nothing has happened. -/
theorem access_cases {α : Type} {f : Database → Database × Except Error α}
    {P : Database → Database → α → Prop} (e : Engine) (now : Instant)
    (atomic : ∀ db, (∃ fault, f db = (db, .error fault)) ∨
      ∃ db' x, f db = (db', .ok x) ∧ P db db' x) :
    ∃ e', (∃ fault, e.access now f = (e', .error fault) ∧ e.Unmoved e') ∨
      ∃ db x, e.access now f = (e', .ok x) ∧ P db e'.database x ∧
        (e'.database = db → e.Unmoved e') := by
  have unmoved := unmoved_opened e now
  cases result : (e.storage.ensureOpen now).2.2 with
  | error fault =>
    -- The statements are not even tried.
    exact ⟨_, .inl ⟨fault, access_of_unopened result f, unmoved⟩⟩
  | ok =>
    have isOpen := isOpen_opened result
    have run := access_of_opened result f
    rcases atomic (e.opened now).database with ⟨fault, failed⟩ | ⟨db', x, ran, done⟩
    · -- The database with which they began is written back.
      rw [failed] at run
      exact ⟨_, .inl ⟨fault, run, unmoved.setDatabase isOpen⟩⟩
    · rw [ran] at run
      have holds := database_setDatabase isOpen db'
      refine ⟨_, .inr ⟨_, x, run, holds.symm ▸ done, fun unchanged => ?_⟩⟩
      rw [holds] at unchanged
      rw [unchanged]
      exact unmoved.setDatabase isOpen

/-- A call that fails has moved nothing, and one that succeeds has done something. -/
def AllOrNothing {α : Type} (e : Engine) (outcome : Engine × Except Error α)
    (Done : Engine → α → Prop) : Prop :=
  match outcome with
  | (e', .error _) => e.Unmoved e'
  | (e', .ok x) => Done e' x

namespace AllOrNothing

variable {α : Type} {e : Engine} {outcome : Engine × Except Error α} {Done : Engine → α → Prop}

theorem of_error (either : e.AllOrNothing outcome Done) {fault : Error}
    (failed : outcome.2 = .error fault) : e.Unmoved outcome.1 := by
  obtain ⟨e', result⟩ := outcome
  obtain rfl := failed
  exact either

theorem of_ok (either : e.AllOrNothing outcome Done) {x : α} (succeeded : outcome.2 = .ok x) :
    Done outcome.1 x := by
  obtain ⟨e', result⟩ := outcome
  obtain rfl := succeeded
  exact either

end AllOrNothing

theorem database_afterEnqueue (e : Engine) (pending : Nat) :
    (e.afterEnqueue pending).database = e.database := by
  have view := e.view_afterEnqueue pending
  exact (congrArg View.database view).trans e.view.told_database

theorem database_log (e : Engine) (line : LogLine) : (e.log line).database = e.database :=
  congrArg View.database (e.view_log line)

theorem database_emit (e : Engine) (event : Event) : (e.emit event).database = e.database :=
  congrArg View.database (e.view_emit event)

theorem mutate_allOrNothing (e : Engine) (m : Mutation) (now : Instant) :
    e.AllOrNothing (e.mutate m now) fun e' _ => e'.database.HasMade m now := by
  obtain ⟨e', ⟨fault, run, unmoved⟩ | ⟨db, pending, run, ⟨-, -, queued, copied⟩, -⟩⟩ :=
    e.access_cases now fun db => db.mutate_cases m now
  · simp only [mutate, run]
    exact unmoved
  · simp only [mutate, run, AllOrNothing, database_afterEnqueue, database_log]
    rw [Database.HasMade, queued, copied]
    exact ⟨⟨_, List.mem_append_right _ List.mem_cons_self, rfl⟩, m.madeIn_rowsAfter now _⟩

theorem moveToDeadLetters_allOrNothing (e : Engine) (m : Mutation) (now : Instant) :
    e.AllOrNothing (e.moveToDeadLetters m now) fun e' _ => e'.database.HasBuried m.id := by
  obtain ⟨e', ⟨fault, run, unmoved⟩ | ⟨db, pending, run, ⟨-, -, filed, left⟩, -⟩⟩ :=
    e.access_cases now fun db => db.bury_cases ⟨m, now⟩
  · simp only [moveToDeadLetters, run]
    exact unmoved
  · simp only [moveToDeadLetters, run, AllOrNothing, database_emit, database_log]
    rw [Database.HasBuried, filed, left]
    exact ⟨(mem_keysOf_upserted rfl rfl).mpr (.inr rfl),
      fun there => (mem_keysOf_without.mp there).2 rfl⟩

theorem requeue_allOrNothing (e : Engine) (id : String) (now : Instant) :
    e.AllOrNothing (e.requeue id now) fun e' revived =>
      match revived with
      | none => e.Unmoved e' ∧ .text id ∉ keysOf (e'.database.rowsOf .deadLetters)
      | some m => e'.database.HasRevived id m := by
  obtain ⟨e', ⟨fault, run, unmoved⟩ | ⟨db, revived, run, done, unmoved⟩⟩ :=
    e.access_cases now fun db => db.revive_cases id now
  · simp only [requeue, run]
    exact unmoved
  · rcases done with ⟨rfl, same, absent⟩ | ⟨m, pending, rfl, keyed, -, -, left, queued⟩
    · simp only [requeue, run, AllOrNothing]
      exact ⟨unmoved same, same ▸ absent⟩
    · simp only [requeue, run, AllOrNothing, database_afterEnqueue, database_log]
      rw [Database.HasRevived, left, queued]
      exact ⟨keyed, ⟨_, List.mem_append_right _ List.mem_cons_self, rfl⟩,
        fun there => (mem_keysOf_without.mp there).2 rfl⟩

theorem saveEntities_allOrNothing (e : Engine) (kind : EntityKind) (items : List (String × Json))
    (now : Instant) :
    e.AllOrNothing (e.saveEntities kind items now) fun e' _ =>
      e'.database.HasStored kind (CopyStep.batch now items) := by
  cases items with
  | nil =>
    -- An empty batch does not come to the store, and of it there is nothing to be found.
    exact fun id x none => by cases none
  | cons item items =>
    obtain ⟨e', outcome⟩ :=
      e.access_cases now fun db => db.putBatch_cases kind (CopyStep.batch now (item :: items))
    simp only [CopyStep.batch] at outcome
    rcases outcome with ⟨fault, run, unmoved⟩ | ⟨db, _, run, stored, -⟩
    · simp only [saveEntities, run]
      exact unmoved
    · simp only [saveEntities, run]
      intro id x last
      rw [database_log, stored]
      exact Written.rowsWith last

end Engine

/-- Whatever the tables are and whichever of its statements fails, opening the database included: a
call that makes a change with its local copy, moves a mutation to the dead letters, queues a dead
letter anew or stores a batch has moved nothing if it fails. If it succeeds, both of its halves have
taken effect, and all records of the batch are stored; where there is no dead letter to be queued
nothing is moved either. -/
theorem transactions_all_or_nothing (e : Engine) (now : Instant) :
    (∀ m : Mutation, e.AllOrNothing (e.mutate m now) fun e' _ => e'.database.HasMade m now) ∧
    (∀ m : Mutation, e.AllOrNothing (e.moveToDeadLetters m now) fun e' _ =>
      e'.database.HasBuried m.id) ∧
    (∀ id : String, e.AllOrNothing (e.requeue id now) fun e' revived =>
      match revived with
      | none => e.Unmoved e' ∧ .text id ∉ keysOf (e'.database.rowsOf .deadLetters)
      | some m => e'.database.HasRevived id m) ∧
    ∀ kind items, e.AllOrNothing (e.saveEntities kind items now) fun e' _ =>
      e'.database.HasStored kind (CopyStep.batch now items) := by
  refine ⟨fun m => ?_, fun m => ?_, fun id => ?_, fun kind items => ?_⟩
  · exact e.mutate_allOrNothing m now
  · exact e.moveToDeadLetters_allOrNothing m now
  · exact e.requeue_allOrNothing id now
  · exact e.saveEntities_allOrNothing kind items now

namespace Engine

/-- An engine whose transactions cannot be committed. -/
def sampleFull : Engine :=
  (inMemory .default true).setDatabase { (inMemory .default true).database with isFull := true }

def sampleChange : Mutation := .fresh "m1" .create .incidents "i1" .null .epoch

end Engine

/-- The theorem at a change that fails with the last step of its transaction, and at one that
succeeds. -/
theorem change_undone_when_full :
    (∃ fault, (Engine.sampleFull.mutate Engine.sampleChange .epoch).2 = .error fault) ∧
      Engine.sampleFull.Unmoved (Engine.sampleFull.mutate Engine.sampleChange .epoch).1 ∧
      ((Engine.inMemory .default true).mutate Engine.sampleChange .epoch).1.database.HasMade
        Engine.sampleChange .epoch := by
  have refused : ∃ fault,
      (Engine.sampleFull.mutate Engine.sampleChange .epoch).2 = .error fault := ⟨_, rfl⟩
  have made : ((Engine.inMemory .default true).mutate Engine.sampleChange .epoch).2 = .ok "m1" :=
    rfl
  obtain ⟨fault, failed⟩ := refused
  have undone := (transactions_all_or_nothing Engine.sampleFull .epoch).1 Engine.sampleChange
  have done := (transactions_all_or_nothing (Engine.inMemory .default true) .epoch).1
    Engine.sampleChange
  exact ⟨⟨fault, failed⟩, undone.of_error failed, done.of_ok made⟩

end Outbox
