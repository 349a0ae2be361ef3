import Outbox.Engine.Lifecycle
import Outbox.Proofs.Background

/-!
# Opening a store and starting an engine

A path leads to one place whatever the disk holds on the way, so every engine that is started on a
path opens the same file. Opening prepares the database: a new one gets its tables, and in one that
has them nothing that mutations are in is touched.
-/
namespace Outbox

open Table Time

namespace Disk

/-! ## Paths -/

/-- One part of a path further. -/
def descend (here : List String) (part : String) : List String :=
  if part = ".." then here.dropLast else here ++ [part]

/-- Where a path leads if it leads anywhere. -/
def fullPath (path : String) : List String := (parts path).foldl descend []

theorem resolveParts_eq_ok {d : Disk} {here ps full : List String}
    (found : d.resolveParts here ps = .ok full) : full = ps.foldl descend here := by
  induction ps generalizing here with
  | nil =>
    rw [resolveParts] at found
    cases found
    rfl
  | cons p ps ih =>
    rw [resolveParts] at found
    split at found
    · exact ih found
    · split at found <;> cases found

theorem resolve_eq_ok {d : Disk} {path : String} {full : List String}
    (found : d.resolve path = .ok full) : full = fullPath path :=
  resolveParts_eq_ok found

/-! ## Entries -/

theorem entryAt?_put_of_ne (d : Disk) {path other : List String} (h : other ≠ path)
    (e : DiskEntry) : (d.put path e).entryAt? other = d.entryAt? other := by
  have differs : (other == path) = false := beq_false_of_ne h
  simp only [entryAt?, put, List.lookup_cons, differs]
  induction d.entries with
  | nil => rfl
  | cons entry entries ih =>
    obtain ⟨key, value⟩ := entry
    by_cases same : key = path
    · subst same
      simp only [List.filter_cons, bne_self_eq_false, Bool.false_eq_true, if_false,
        List.lookup_cons, differs]
      exact ih
    · simp only [List.filter_cons, bne_iff_ne, ne_eq, same, not_false_eq_true, if_true,
        List.lookup_cons]
      split
      · rfl
      · exact ih

/-- A directory is made only where nothing is, so no database is lost. -/
theorem makeDirectory_database? {d d' : Disk} {ps : List String}
    (made : d.makeDirectory ps = .ok d') (path : List String) :
    d'.database? path = d.database? path := by
  obtain ⟨full, -, made⟩ := Except.bind_eq_ok made
  split at made
  · split at made
    · cases made
      rfl
    · cases made
  next free =>
    cases made
    have absent : d.entryAt? full = none := by simp_all
    by_cases same : path = full
    · subst same
      -- Where nothing was there is a directory now, which is no database either.
      have before : d.database? path = none := by simp only [database?, absent]
      rw [before]
      simp only [database?, entryAt?, put, List.lookup_cons_self]
    · simp only [database?, entryAt?_put_of_ne d same]

theorem makeDirectoriesUp_database? {d d' : Disk} {ps : List String}
    (made : d.makeDirectoriesUp ps = .ok d') (path : List String) :
    d'.database? path = d.database? path := by
  induction ps generalizing d d' with
  | nil =>
    cases made
    rfl
  | cons last above ih =>
    rw [makeDirectoriesUp] at made
    split at made
    · obtain ⟨d₁, below, made⟩ := Except.bind_eq_ok made
      rw [makeDirectory_database? made, ih below]
    · exact makeDirectory_database? made path

theorem makeDirectories_database? {d d' : Disk} {ps : List String}
    (made : d.makeDirectories ps = .ok d') (path : List String) :
    d'.database? path = d.database? path :=
  makeDirectoriesUp_database? made path

/-- Opening a file for a database finds the one that is there or makes one, if the file can hold
one at all. -/
theorem openDatabase_eq_ok {d d' : Disk} {path : String} {full : List String} {readable : Bool}
    (opened : d.openDatabase path = .ok (d', full, readable)) :
    full = fullPath path ∧
      if readable then d'.database? full = some ((d.database? full).getD .empty) else d' = d := by
  unfold openDatabase at opened
  split at opened
  · cases opened
  next here found =>
    have there := resolve_eq_ok found
    split at opened
    · cases opened
    · split at opened
      next absent =>
        cases opened
        -- A file that is missing is made, with an empty database in it.
        have before : d.database? full = none := by simp only [database?, absent]
        rw [before]
        exact ⟨there, d.database?_putDatabase full .empty⟩
      next db present =>
        cases opened
        refine ⟨there, ?_⟩
        simp only [if_true, database?, present, Option.getD_some]
      next text present =>
        split at opened
        · cases opened
          -- A file without a single byte is a database that is empty.
          have before : d.database? full = none := by simp only [database?, present]
          rw [before]
          exact ⟨there, d.database?_putDatabase full .empty⟩
        · cases opened
          exact ⟨there, rfl⟩
      · cases opened

end Disk

/-! ## Migrations -/

namespace Migration

variable {R : Database → Database → Prop}

/-- A relation in which a database is to what any step of a migration makes of it. -/
structure Steps (R : Database → Database → Prop) : Prop where
  refl : ∀ db, R db db
  trans : ∀ {db db' db''}, R db db' → R db' db'' → R db db''
  ensure : ∀ db name, R db (ensure db name)
  insert : ∀ {db db' cells}, db.insert .history cells = .ok db' → R db db'

namespace Steps

theorem foldl {α β : Type} (steps : Steps R) {f : β → α → β} (content : β → Database)
    (step : ∀ b a, R (content b) (content (f b a))) (b : β) (xs : List α) :
    R (content b) (content (xs.foldl f b)) := by
  induction xs generalizing b with
  | nil => exact steps.refl _
  | cons x xs ih => exact steps.trans (step b x) (ih _)

theorem apply (steps : Steps R) {db db' : Database} {m : Migration} {now : Instant}
    (applied : m.apply db now = .ok db') : R db db' := by
  have made : R db (m.tables.foldl Migration.ensure db) := steps.foldl id steps.ensure db _
  unfold Migration.apply at applied
  simp only at applied
  split at applied
  next inserted =>
    cases applied
    exact steps.trans made (steps.insert inserted)
  · cases applied

theorem run (steps : Steps R) (db : Database) (now : Instant) : R db (Migration.run db now).1 := by
  unfold Migration.run
  simp only
  split
  · exact steps.ensure db .history
  next new _ =>
    refine steps.trans (steps.ensure db .history) ?_
    refine steps.foldl Prod.fst (fun state m => ?_) (Migration.ensure db .history, Except.ok ()) new
    split
    · exact steps.refl _
    · split
      next applied => exact steps.apply applied
      · exact steps.refl _

theorem prepare (steps : Steps R) (db : Database) (now : Instant) : R db (db.prepare now).1 := by
  unfold Database.prepare
  split
  · exact steps.refl db
  · unfold Database.migrate
    simp only
    split <;> exact steps.run db now

end Steps

end Migration

namespace Database

/-- The tables that mutations are in and that were there before are the same, and those that were
not there have no rows. -/
structure Keeps (db db' : Database) : Prop where
  isFull : db'.isFull = db.isFull
  table : ∀ name, isTravelled name = true → ∀ t, db.get? name = some t → db'.get? name = some t
  rows : ∀ name, isTravelled name = true → db'.rowsOf name = db.rowsOf name

namespace Keeps

variable {db db' db'' : Database}

theorem refl (db : Database) : Keeps db db := ⟨rfl, fun _ _ _ h => h, fun _ _ => rfl⟩

theorem trans (h : Keeps db db') (h' : Keeps db' db'') : Keeps db db'' where
  isFull := h'.isFull.trans h.isFull
  table name travelled t present := h'.table name travelled t (h.table name travelled t present)
  rows name travelled := (h'.rows name travelled).trans (h.rows name travelled)

/-- Tables in which no mutation is may change. -/
theorem set {name : TableName} (other : isTravelled name = false) (t : Option Table) :
    Keeps db (db.set name t) := by
  have apart {name' : TableName} (travelled : isTravelled name' = true) : name' ≠ name := by
    rintro rfl
    simp [other] at travelled
  refine ⟨isFull_set db name t, fun name' travelled t' present => ?_, fun name' travelled => ?_⟩
  · rwa [get?_set_of_ne db (apart travelled)]
  · rw [Database.rowsOf, get?_set_of_ne db (apart travelled), Database.rowsOf]

theorem ensure (db : Database) (name : TableName) : Keeps db (Migration.ensure db name) := by
  unfold Migration.ensure
  split
  · exact refl db
  next absent =>
    refine ⟨isFull_set db name _, fun name' _ t present => ?_, fun name' _ => ?_⟩
    · rwa [get?_set_of_ne db (fun same => by simp [same, absent] at present)]
    · by_cases same : name' = name
      · -- The table that is made is empty.
        rw [same, Database.rowsOf, get?_set_self, Database.rowsOf, absent]
        rfl
      · rw [Database.rowsOf, get?_set_of_ne db same, Database.rowsOf]

theorem insert {cells : List Cell} (inserted : db.insert .history cells = .ok db') :
    Keeps db db' := by
  obtain ⟨t, -, inserted⟩ := Except.bind_eq_ok inserted
  obtain ⟨t', -, inserted⟩ := Except.bind_eq_ok inserted
  cases inserted
  exact .set rfl _

theorem prepare (db : Database) (now : Instant) : Keeps db (db.prepare now).1 :=
  Migration.Steps.prepare ⟨refl, trans, ensure, insert⟩ db now

/-- A healthy database stays healthy. -/
theorem healthy (keeps : Keeps db db') (h : db.Healthy) : db'.Healthy where
  table name travelled := by
    have same := keeps.table name travelled _ (h.table name travelled)
    rw [Database.rowsOf, same]
    rfl
  notFull := keeps.isFull.trans h.notFull

end Keeps

/-- A new database gets all its tables. -/
theorem prepare_empty (now : Instant) :
    ∃ db lines, Database.empty.prepare now = (db, .ok lines) ∧ db.Healthy ∧
      ∀ name, isTravelled name = true → db.rowsOf name = [] := by
  refine ⟨_, _, rfl, ⟨fun name travelled => ?_, rfl⟩, fun name travelled => ?_⟩
  · cases name with
    | collection kind => cases kind <;> rfl
    | queue | deadLetters => rfl
    | _ => cases travelled
  · cases name with
    | collection kind => cases kind <;> rfl
    | queue | deadLetters => rfl
    | _ => cases travelled

end Database

/-! ## Opening -/

namespace Storage

/-- Either nothing happens to the database in the file, or it is prepared. An open store is linked
to the file. -/
theorem openFresh_file (disk : Disk) (path : String) (now : Instant) :
    ∃ s result, (closed disk (.file path)).openFresh now = (s, result) ∧
      ((s.disk.database? (Disk.fullPath path) = disk.database? (Disk.fullPath path) ∧
          ∃ fault, result = .error fault) ∨
        (s.disk.database? (Disk.fullPath path) =
            some (((disk.database? (Disk.fullPath path)).getD .empty).prepare now).1 ∧
          ∀ lines, result = .ok lines → s.link = some (some (Disk.fullPath path)))) := by
  cases made : disk.makeDirectories (Disk.parts (Disk.parent path)) with
  | error fault =>
    simp only [openFresh, connect, closed, made]
    exact ⟨_, _, rfl, .inl ⟨rfl, _, rfl⟩⟩
  | ok disk₁ =>
    -- Only now is the database looked at; the directories above it left it alone.
    have before := Disk.makeDirectories_database? made (Disk.fullPath path)
    cases opened : disk₁.openDatabase path with
    | error fault =>
      simp only [openFresh, connect, closed, made, opened]
      exact ⟨_, _, rfl, .inl ⟨before, _, rfl⟩⟩
    | ok found =>
      obtain ⟨disk₂, full, readable⟩ := found
      obtain ⟨rfl, content⟩ := Disk.openDatabase_eq_ok opened
      rw [before] at content
      cases readable with
      | false =>
        simp only [openFresh, connect, closed, made, opened, Bool.false_eq_true, if_false]
        refine ⟨_, _, rfl, .inl ⟨?_, _, rfl⟩⟩
        rw [← before]
        simp_all
      | true =>
        simp only [if_true] at content
        simp only [openFresh, connect, closed, made, opened, if_true, database?, content,
          Option.getD_some]
        split
        · refine ⟨_, _, rfl, .inr ⟨?_, by simp⟩⟩
          exact Disk.database?_putDatabase _ _ _
        · refine ⟨_, _, rfl, .inr ⟨?_, fun _ _ => rfl⟩⟩
          exact Disk.database?_putDatabase _ _ _

theorem ensureOpen_file (disk : Disk) (path : String) (now : Instant) :
    ∃ s lines result, (closed disk (.file path)).ensureOpen now = (s, lines, result) ∧
      ((s.disk.database? (Disk.fullPath path) = disk.database? (Disk.fullPath path) ∧
          ∃ fault, result = .error fault) ∨
        (s.disk.database? (Disk.fullPath path) =
            some (((disk.database? (Disk.fullPath path)).getD .empty).prepare now).1 ∧
          (result = .ok () → s.link = some (some (Disk.fullPath path))))) := by
  obtain ⟨s, result, run, what⟩ := openFresh_file disk path now
  have shut : (closed disk (.file path)).isOpen = false := rfl
  cases result with
  | error fault =>
    simp only [ensureOpen, shut, run, Bool.false_eq_true, if_false]
    refine ⟨_, _, _, rfl, what.imp (fun h => ⟨h.1, _, rfl⟩) fun h => ⟨h.1, by simp⟩⟩
  | ok lines =>
    simp only [ensureOpen, shut, run, Bool.false_eq_true, if_false]
    refine ⟨_, _, _, rfl, what.imp (fun h => ?_) fun h => ⟨h.1, fun _ => h.2 _ rfl⟩⟩
    obtain ⟨-, fault, none⟩ := h
    cases none

/-- A store that was opened is linked to its database, wherever that is. -/
theorem link_of_ensureOpen {s s' : Storage} {lines : List LogLine} {now : Instant}
    (opened : s.ensureOpen now = (s', lines, .ok ())) : s'.link.isSome = true := by
  unfold ensureOpen at opened
  split at opened
  next isOpen =>
    cases opened
    simpa [link, Storage.isOpen] using isOpen
  · split at opened
    next fresh =>
      cases opened
      unfold openFresh at fresh
      split at fresh
      · cases fresh
      · simp only at fresh
        split at fresh
        · cases fresh
        · cases fresh
          rw [link_setDatabase]
          rfl
    · cases opened

/-- The database of a store that is linked to a file is in that file. -/
theorem database?_of_link {s : Storage} {full : List String} (linked : s.link = some (some full)) :
    s.database? = some ((s.disk.database? full).getD .empty) := by
  unfold link at linked
  unfold database?
  cases h : s.connection with
  | none => simp [h] at linked
  | some connection =>
    cases connection with
    | memory db => simp [h] at linked
    | file path =>
      have same : path = full := by simpa [h] using linked
      rw [same]

end Storage

/-! ## Starting -/

namespace Launch

def isReady : Launch → Bool
  | .ready _ => true
  | _ => false

/-- The engine that came of a start, or another one. -/
def engineD (l : Launch) (other : Engine) : Engine :=
  match l with
  | .ready e => e
  | _ => other

theorem eq_ready {l : Launch} (ready : l.isReady = true) (other : Engine) :
    l = .ready (l.engineD other) := by
  cases l with
  | ready e => rfl
  | refused fault | panicked => cases ready

end Launch

namespace View

/-- An engine that listens to changes of the network and has not begun to work. -/
def beginning (policy : RetryPolicy) (storage : Storage) (online : Bool) : View where
  link := storage.link
  database := (storage.database?).getD .empty
  policy := policy
  monitor := ⟨online, (Channel.ofCapacity 100).subscribe.1⟩
  requester := .processor
  pass := none
  tasks := [.connectivity]
  connectivity := some 0
  listener := none
  watch := none
  deliveries := []

/-- The engine follows a listener from a position on. -/
def attached (v : View) (reachable : Bool) (listener : Listener) (position : Nat) : View :=
  { v.turnedTo reachable with
    listener := some listener
    watch := some position
    tasks := withTask .watch (v.turnedTo reachable).tasks }

/-- What is left in the queue is tried at once when the remote side can be reached. -/
def announced (v : View) : View :=
  if v.monitor.online then { v with tasks := v.tasks ++ [.drain] } else v

end View

namespace Engine

theorem view_announceStart (e : Engine) (now : Instant) :
    (e.announceStart now).view = e.view.announced := by
  unfold announceStart
  simp only [view_log]
  unfold View.announced
  change _ = if e.isOnline then { e.view with tasks := e.view.tasks ++ [.drain] } else e.view
  split
  · rw [view_requestDrain, view_publish]
  · rw [view_publish]

theorem view_attach {e e' : Engine} {listener : Option Listener}
    (attached : e.attach listener = .ok e') :
    e'.view = e.view ∨
      ∃ reachable l position, e'.view = e.view.attached reachable l position := by
  cases listener with
  | none =>
    cases attached
    exact .inl rfl
  | some listener =>
    obtain ⟨⟨l, position⟩, -, done⟩ := Except.bind_eq_ok attached
    cases done
    refine .inr ⟨listener.status.isReachable, l, position, ?_⟩
    have turned := view_setOnline e listener.status.isReachable
    rw [view_wake, View.attached, ← turned]
    rfl

theorem view_listen (e : Engine) :
    (wake { e with
      requester := .processor
      monitor := { e.monitor with changes := e.monitor.changes.subscribe.1 }
      connectivity := some e.monitor.changes.subscribe.2 } .connectivity).view =
    { e.view with
      requester := .processor
      monitor := { e.view.monitor with changes := e.view.monitor.changes.subscribe.1 }
      connectivity := some e.view.monitor.changes.subscribe.2
      tasks := withTask .connectivity e.view.tasks } :=
  view_wake _ _

/-- What an engine that was started has in its view. -/
theorem view_start {c : Config} {disk : Disk} {listener : Option Listener}
    {history : List LogLine} {revision : String} {now : Instant} {e : Engine}
    (started : start c disk listener history revision now = .ready e) :
    ∃ storage lines, (Storage.closed disk (.ofConfig c)).ensureOpen now = (storage, lines, .ok ()) ∧
      let v := View.beginning c.policy storage c.startOnline
      (e.view = v.announced ∨
        ∃ reachable l position, e.view = (v.attached reachable l position).announced) := by
  unfold start at started
  split at started
  · cases started
  · cases opened : (Storage.closed disk (.ofConfig c)).ensureOpen now with
    | mk storage rest =>
      obtain ⟨lines, result⟩ := rest
      rw [opened] at started
      simp only at started
      split at started
      · cases started
      · cases started
      next notifier _ =>
        split at started
        · cases started
        next e₁ attached =>
          cases started
          refine ⟨storage, lines, rfl, ?_⟩
          rw [view_announceStart]
          rcases view_attach attached with same | ⟨reachable, l, position, view⟩
          · rw [same, view_listen, view_logAll]
            exact .inl rfl
          · rw [view, view_listen, view_logAll]
            exact .inr ⟨reachable, l, position, rfl⟩

/-- An engine that was started has its store open and no pass in progress. -/
theorem store_of_start {c : Config} {disk : Disk} {listener : Option Listener}
    {history : List LogLine} {revision : String} {now : Instant} {e : Engine}
    (started : start c disk listener history revision now = .ready e) :
    ∃ storage lines, (Storage.closed disk (.ofConfig c)).ensureOpen now = (storage, lines, .ok ()) ∧
      e.view.link = storage.link ∧ e.view.database = (storage.database?).getD .empty ∧
      e.view.pass = none := by
  -- All that comes after the opening concerns the network and the tasks.
  have kept (v : View) : v.announced = { v with tasks := v.announced.tasks } := by
    unfold View.announced
    split <;> rfl
  obtain ⟨storage, lines, opened, view | ⟨reachable, l, position, view⟩⟩ := view_start started
  · rw [view, kept]
    exact ⟨storage, lines, opened, rfl, rfl, rfl⟩
  · rw [view, kept, View.attached, View.turnedTo_eq]
    exact ⟨storage, lines, opened, rfl, rfl, rfl⟩

/-- A new database in memory is in order. -/
theorem healthy_of_start {c : Config} {disk : Disk} {listener : Option Listener}
    {history : List LogLine} {revision : String} {now : Instant} {e : Engine}
    (started : start c disk listener history revision now = .ready e)
    (memory : Location.ofConfig c = .memory) : e.view.database.Healthy := by
  obtain ⟨storage, lines, opened, -, content, -⟩ := store_of_start started
  obtain ⟨db, lines', prepared, healthy, -⟩ := Database.prepare_empty now
  simp only [Storage.ensureOpen, Storage.openFresh, Storage.connect, Storage.closed,
    Storage.isOpen, Storage.database?, memory, Option.isSome_none, Bool.false_eq_true, if_false,
    Option.getD_some, prepared] at opened
  cases opened
  rw [content]
  exact healthy

/-- An engine with a new database in memory, which nobody follows. -/
def inMemory (policy : RetryPolicy) (online : Bool) : Engine :=
  assemble policy false ⟨⟨[]⟩, .memory, some (.memory (Database.empty.prepare .epoch).1)⟩ .default
    online

theorem inMemory_sound (policy : RetryPolicy) (online : Bool) :
    (inMemory policy online).view.Sound := by
  obtain ⟨db, lines, run, healthy, -⟩ := Database.prepare_empty .epoch
  refine ⟨rfl, ?_⟩
  change (Database.empty.prepare .epoch).1.Healthy
  rw [run]
  exact healthy

end Engine

end Outbox
