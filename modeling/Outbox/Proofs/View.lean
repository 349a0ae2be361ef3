import Outbox.Engine.Pass
import Outbox.Proofs.Store

/-!
# What an engine does apart from its talk

Log lines, events and callbacks accompany every step of an engine and change nothing that a later
step depends on. The view of an engine leaves them out, so that an operation on it is an equation
on the database, the pass and the tasks. Whatever is proved about runs is proved from these
equations.
-/
namespace Outbox

open Table Time

/-- The mutation that an effect hands to the remote side. -/
def Effect.delivery? : Effect → Option Mutation
  | .sent m => some m
  | _ => none

/-- Where the open database of a store is: in memory, or in the file of a full path. -/
def Storage.link (s : Storage) : Option (Option (List String)) :=
  s.connection.map fun
    | .memory _ => none
    | .file path => some path

/-- An engine without its log, its listeners' events and its callbacks. -/
structure View where
  link : Option (Option (List String))
  database : Database
  policy : RetryPolicy
  monitor : Monitor
  requester : Requester
  pass : Option Pass
  tasks : List Task
  connectivity : Option Nat
  listener : Option Listener
  watch : Option Nat
  /-- All that was handed to the remote side, in that order. -/
  deliveries : List Mutation

namespace Engine

/-- The content of the database; an engine whose store is closed has none. -/
def database (e : Engine) : Database := (e.storage.database?).getD .empty

/-- All that was handed to the remote side, in that order. -/
def deliveries (e : Engine) : List Mutation := e.trace.reverse.filterMap Effect.delivery?

def view (e : Engine) : View where
  link := e.storage.link
  database := e.database
  policy := e.policy
  monitor := e.monitor
  requester := e.requester
  pass := e.pass
  tasks := e.tasks
  connectivity := e.connectivity
  listener := e.listener
  watch := e.watch
  deliveries := e.deliveries

end Engine

namespace View

/-- The store is open and its database is healthy. -/
structure Sound (v : View) : Prop where
  isOpen : v.link.isSome = true
  healthy : v.database.Healthy

/-- The view with another database. -/
def withDatabase (v : View) (db : Database) : View := { v with database := db }

/-- The rows of the queue. -/
def queueRows (v : View) : List Row := v.database.rowsOf .queue

/-- The rows of the dead letters. -/
def letterRows (v : View) : List Row := v.database.rowsOf .deadLetters

/-- The view with other rows in the queue. -/
def withQueue (v : View) (rows : List Row) : View :=
  v.withDatabase (v.database.withRows .queue rows)

/-- The view with other rows in the dead letters. -/
def withLetters (v : View) (rows : List Row) : View :=
  v.withDatabase (v.database.withRows .deadLetters rows)

/-- The queue got longer: where the remote side can be reached, the requester is told. -/
def told (v : View) : View :=
  if v.monitor.online then
    match v.requester with
    | .unbound | .gone => v
    | .processor => { v with tasks := v.tasks ++ [.drain] }
    | .counter requests => { v with requester := .counter (requests + 1) }
  else v

/-- A pass goes on with the next mutation, or ends. -/
def continued (v : View) (rest : List Mutation) (report : Report) : View :=
  match rest with
  | [] => { v with pass := none }
  | m :: rest =>
    { v with
      pass := some ⟨m, rest, { report with attempted := report.attempted + 1 }⟩
      deliveries := v.deliveries ++ [m] }

variable {v : View}

theorem Sound.withDatabase (s : v.Sound) {db : Database} (h : db.Healthy) :
    (v.withDatabase db).Sound :=
  ⟨s.isOpen, h⟩

theorem Sound.withQueue (s : v.Sound) (rows : List Row) : (v.withQueue rows).Sound :=
  s.withDatabase (s.healthy.withRows _ _)

theorem Sound.withLetters (s : v.Sound) (rows : List Row) : (v.withLetters rows).Sound :=
  s.withDatabase (s.healthy.withRows _ _)

theorem Sound.continued (s : v.Sound) (rest : List Mutation) (report : Report) :
    (v.continued rest report).Sound := by
  cases rest <;> exact ⟨s.isOpen, s.healthy⟩

/-- A pass that goes on changes the pass and the deliveries only. -/
theorem continued_eq (v : View) (rest : List Mutation) (report : Report) :
    v.continued rest report =
      { v with
        pass := (v.continued rest report).pass
        deliveries := (v.continued rest report).deliveries } := by
  cases rest <;> rfl

@[simp] theorem continued_link (v : View) (rest : List Mutation) (report : Report) :
    (v.continued rest report).link = v.link := by rw [continued_eq]

@[simp] theorem continued_database (v : View) (rest : List Mutation) (report : Report) :
    (v.continued rest report).database = v.database := by rw [continued_eq]

@[simp] theorem continued_policy (v : View) (rest : List Mutation) (report : Report) :
    (v.continued rest report).policy = v.policy := by rw [continued_eq]

@[simp] theorem continued_monitor (v : View) (rest : List Mutation) (report : Report) :
    (v.continued rest report).monitor = v.monitor := by rw [continued_eq]

@[simp] theorem continued_connectivity (v : View) (rest : List Mutation) (report : Report) :
    (v.continued rest report).connectivity = v.connectivity := by rw [continued_eq]

@[simp] theorem continued_tasks (v : View) (rest : List Mutation) (report : Report) :
    (v.continued rest report).tasks = v.tasks := by rw [continued_eq]

/-- Telling the requester wakes tasks and leaves the store and the pass alone. -/
theorem told_eq (v : View) :
    v.told = { v with requester := v.told.requester, tasks := v.told.tasks } := by
  unfold told
  split
  · split <;> rfl
  · rfl

@[simp] theorem told_link (v : View) : v.told.link = v.link := by rw [told_eq]

@[simp] theorem told_database (v : View) : v.told.database = v.database := by rw [told_eq]

@[simp] theorem told_policy (v : View) : v.told.policy = v.policy := by rw [told_eq]

@[simp] theorem told_pass (v : View) : v.told.pass = v.pass := by rw [told_eq]

@[simp] theorem told_monitor (v : View) : v.told.monitor = v.monitor := by rw [told_eq]

@[simp] theorem told_connectivity (v : View) : v.told.connectivity = v.connectivity := by
  rw [told_eq]

/-- Tasks that are ready stay so. -/
theorem mem_told_tasks {t : Task} (ready : t ∈ v.tasks) : t ∈ v.told.tasks := by
  unfold told
  split
  · split
    · exact ready
    · exact ready
    · exact List.mem_append_left _ ready
    · exact ready
  · exact ready

theorem Sound.told (s : v.Sound) : v.told.Sound :=
  ⟨by rw [told_link]; exact s.isOpen, by rw [told_database]; exact s.healthy⟩

end View

/-- The ready tasks with one more, unless it is ready. -/
def withTask (t : Task) (tasks : List Task) : List Task :=
  if tasks.contains t then tasks else tasks ++ [t]

theorem mem_withTask_of_mem {t u : Task} {tasks : List Task} (ready : u ∈ tasks) :
    u ∈ withTask t tasks := by
  unfold withTask
  split
  · exact ready
  · exact List.mem_append_left _ ready

theorem mem_withTask_self (t : Task) (tasks : List Task) : t ∈ withTask t tasks := by
  unfold withTask
  split
  next ready => exact List.contains_iff_mem.mp ready
  · exact List.mem_append_right _ List.mem_cons_self

/-- How a pass ends that has so much left to try. -/
def outcomeAfter (rest : List Mutation) (report : Report) : Option Outcome :=
  match rest with
  | [] => some (.finished report)
  | _ :: _ => none

namespace Engine

/-! ## Talk -/

theorem view_record (e : Engine) (effect : Effect) :
    (e.record effect).view =
      { e.view with deliveries := e.deliveries ++ effect.delivery?.toList } := by
  -- The trace grows at its head, and deliveries are read from its end.
  have more : (e.record effect).deliveries = e.deliveries ++ effect.delivery?.toList := by
    simp only [deliveries, record, List.reverse_cons, List.filterMap_append]
    cases h : effect.delivery? <;> simp [h]
  rw [← more]
  rfl

/-- An effect that delivers nothing is talk. -/
theorem view_record_of_talk (e : Engine) {effect : Effect} (talk : effect.delivery? = none) :
    (e.record effect).view = e.view := by
  rw [view_record, talk, Option.toList_none, List.append_nil]
  rfl

@[simp] theorem view_log (e : Engine) (line : LogLine) : (e.log line).view = e.view :=
  e.view_record_of_talk rfl

@[simp] theorem view_logAll (e : Engine) (lines : List LogLine) :
    (e.logAll lines).view = e.view := by
  induction lines generalizing e with
  | nil => rfl
  | cons line lines ih => exact (ih (e.log line)).trans (e.view_log line)

@[simp] theorem view_emit (e : Engine) (event : Event) : (e.emit event).view = e.view :=
  view_record_of_talk { e with notifier := e.notifier.emit event } rfl

theorem view_called (calls : List Call) (e : Engine) :
    (calls.foldl (fun e call => e.record (.called call)) e).view = e.view := by
  induction calls generalizing e with
  | nil => rfl
  | cons call calls ih => exact (ih _).trans (e.view_record_of_talk rfl)

@[simp] theorem view_publish (e : Engine) (status : Status) (now : Instant) :
    (e.publish status now).view = e.view := by
  simp only [publish]
  rw [view_record_of_talk _ rfl, view_logAll, view_called]
  rfl

theorem logAll_eq (e : Engine) (lines : List LogLine) :
    e.logAll lines = { e with trace := lines.reverse.map .logged ++ e.trace } := by
  induction lines generalizing e with
  | nil => rfl
  | cons line lines ih =>
    rw [logAll, List.foldl_cons, ← logAll, ih, List.reverse_cons, List.map_append,
      List.append_assoc]
    rfl

theorem called_eq (e : Engine) (calls : List Call) :
    calls.foldl (fun e call => e.record (.called call)) e =
      { e with trace := calls.reverse.map .called ++ e.trace } := by
  induction calls generalizing e with
  | nil => rfl
  | cons call calls ih =>
    rw [List.foldl_cons, ih, List.reverse_cons, List.map_append, List.append_assoc]
    rfl

@[simp] theorem view_send (e : Engine) (m : Mutation) :
    (e.send m).view = { e.view with deliveries := e.view.deliveries ++ [m] } := by
  unfold send
  simp only [view_record]
  split
  · rw [view_log]
    exact congrArg (fun v : View => { e.view with deliveries := v.deliveries ++ [m] })
      (e.view_log _)
  · rfl

theorem view_setPass (e : Engine) (p : Option Pass) :
    ({ e with pass := p } : Engine).view = { e.view with pass := p } := rfl

/-! ## Requests -/

@[simp] theorem view_requestDrain (e : Engine) :
    e.requestDrain.view = { e.view with tasks := e.view.tasks ++ [.drain] } :=
  view_record_of_talk { e with tasks := e.tasks ++ [Task.drain] } rfl

@[simp] theorem view_wake (e : Engine) (t : Task) :
    (e.wake t).view = { e.view with tasks := withTask t e.view.tasks } := by
  unfold wake withTask
  change Engine.view (if e.tasks.contains t then e else _) =
    { e.view with tasks := if e.tasks.contains t then e.tasks else e.tasks ++ [t] }
  split <;> rfl

theorem view_tellRequester (e : Engine) (online : e.isOnline = true) :
    e.tellRequester.view = e.view.told := by
  have reached : e.view.monitor.online = true := online
  simp only [View.told, reached, if_true]
  change _ = match e.requester with
    | .unbound | .gone => e.view
    | .processor => { e.view with tasks := e.view.tasks ++ [Task.drain] }
    | .counter requests => { e.view with requester := .counter (requests + 1) }
  cases asked : e.requester with
  | counter requests =>
    simp only [tellRequester, asked]
    exact view_record_of_talk { e with requester := .counter (requests + 1) } rfl
  | _ => simp only [tellRequester, asked, view_requestDrain]

@[simp] theorem view_afterEnqueue (e : Engine) (pending : Nat) :
    (e.afterEnqueue pending).view = e.view.told := by
  have same := e.view_emit (.queueChanged pending)
  unfold afterEnqueue
  simp only
  split
  next online => rw [view_tellRequester _ online, same]
  next offline =>
    have unreached : e.view.monitor.online = false := by
      rw [← same]
      exact Bool.not_eq_true _ ▸ offline
    rw [same, View.told, unreached]
    rfl

end Engine

/-! ## The store -/

theorem Disk.database?_putDatabase (d : Disk) (path : List String) (db : Database) :
    (d.putDatabase path db).database? path = some db := by
  simp only [database?, entryAt?, putDatabase, put, List.lookup_cons, beq_self_eq_true]

namespace Storage

variable {s : Storage}

theorem database?_setDatabase (isOpen : s.isOpen = true) (db : Database) :
    (s.setDatabase db).database? = some db := by
  unfold setDatabase
  cases h : s.connection with
  | none => simp [Storage.isOpen, h] at isOpen
  | some connection =>
    cases connection with
    | memory _ => rfl
    | file path => simp only [database?, Disk.database?_putDatabase, Option.getD_some]

theorem link_setDatabase (s : Storage) (db : Database) : (s.setDatabase db).link = s.link := by
  unfold setDatabase
  cases h : s.connection with
  | none => rfl
  | some connection => cases connection <;> simp [link, h]

theorem isOpen_of_link (linked : s.link.isSome = true) : s.isOpen = true := by
  simpa [link, isOpen] using linked

end Storage

namespace Engine

variable {e : Engine}

/-- Statements on an open store run at once, whatever the database holds. -/
theorem access_of_open {α : Type} (isOpen : e.view.link.isSome = true) (now : Instant)
    (f : Database → Database × Except Error α) :
    e.access now f =
      ({ e with storage := e.storage.setDatabase (f e.view.database).1 },
        (f e.view.database).2) := by
  -- The store is open, so it is neither opened nor migrated for this.
  have linked := Storage.isOpen_of_link isOpen
  simp only [access, Storage.ensureOpen, linked, if_true]
  rfl

/-- What is written into an open store is its database from then on. -/
theorem view_setDatabase (isOpen : e.view.link.isSome = true) (db : Database) :
    ({ e with storage := e.storage.setDatabase db } : Engine).view = e.view.withDatabase db := by
  have linked := Storage.isOpen_of_link isOpen
  simp only [view, database, Storage.database?_setDatabase linked, Storage.link_setDatabase]
  rfl

/-- Statements change the database only. -/
theorem access_yields {α : Type} (s : e.view.Sound) (now : Instant)
    (f : Database → Database × Except Error α) :
    ∃ e', e.access now f = (e', (f e.view.database).2) ∧
      e'.view = e.view.withDatabase (f e.view.database).1 :=
  ⟨_, access_of_open s.isOpen now f, view_setDatabase s.isOpen _⟩

/-- Looking something up in an open store changes nothing. -/
theorem query_of_open {α : Type} (isOpen : e.view.link.isSome = true) (now : Instant)
    (f : Database → Except Error α) :
    ∃ e', e.query now f = (e', f e.view.database) ∧ e'.view = e.view :=
  ⟨_, access_of_open isOpen now fun db => (db, f db), view_setDatabase isOpen _⟩

theorem query_yields {α : Type} (s : e.view.Sound) (now : Instant)
    (f : Database → Except Error α) :
    ∃ e', e.query now f = (e', f e.view.database) ∧ e'.view = e.view :=
  query_of_open s.isOpen now f

/-- A statement that succeeds changes the database as it says. -/
theorem change_yields {α : Type} (s : e.view.Sound) (now : Instant)
    (f : Database → Except Error (Database × α)) {db : Database} {x : α}
    (done : f e.view.database = .ok (db, x)) :
    ∃ e', e.change now f = (e', .ok x) ∧ e'.view = e.view.withDatabase db := by
  -- A statement that succeeds has nothing to be undone.
  have ran : e.view.database.atomically f = (db, .ok x) := by
    simp only [Database.atomically, done]
  obtain ⟨e', run, view⟩ := access_yields s now (Database.atomically f)
  rw [ran] at run view
  exact ⟨e', run, view⟩

/-- A statement that fails leaves the database as it was. -/
theorem change_of_refused {α : Type} (s : e.view.Sound) (now : Instant)
    (f : Database → Except Error (Database × α)) {fault : Error}
    (refused : f e.view.database = .error fault) :
    ∃ e', e.change now f = (e', .error fault) ∧ e'.view = e.view := by
  have undone : e.view.database.atomically f = (e.view.database, .error fault) := by
    simp only [Database.atomically, refused]
  obtain ⟨e', run, view⟩ := access_yields s now (Database.atomically f)
  rw [undone] at run view
  exact ⟨e', run, view⟩

end Engine

end Outbox
