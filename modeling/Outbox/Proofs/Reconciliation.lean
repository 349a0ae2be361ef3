import Outbox.Proofs.Channels
import Outbox.Proofs.Launch
import Outbox.Proofs.Stock

/-!
# What is queued offline is sent after the network is back

The connectivity task asks for a pass whenever the network comes back, and that pass takes all that
is in the queue. One thing can come between: a pass that is in progress lets no other one begin, and
it does not know what was queued after it began. If a single pass outlives the time offline, what
was queued in that time waits for the next pass that anybody asks for.

The invariant follows the request. While the network is up and no pass has begun since the change
was queued, a pass waits to be made, or a change of the network waits to be read, or the pass that
was asked for was declined for the sake of the old one.
-/
namespace Outbox

open Table Time

/-! ## Changes that were not read yet -/

namespace View

/-- The connectivity task stands at a position in the changes of the network. While it is behind, it
is ready, and what it will read last is the state of the network. -/
structure Wired (v : View) (position : Nat) : Prop where
  listens : v.connectivity = some position
  receivers : v.monitor.changes.receivers ≠ 0
  capacity : v.monitor.changes.capacity ≠ 0
  reached : position ≤ v.monitor.changes.sent
  ready : position < v.monitor.changes.sent → .connectivity ∈ v.tasks
  latest : position < v.monitor.changes.sent →
    (v.monitor.changes.receive position).getLast? = some (.message v.monitor.online)

variable {v w : View} {position : Nat}

theorem Wired.of_eq (wired : v.Wired position) (monitor : w.monitor = v.monitor)
    (connectivity : w.connectivity = v.connectivity)
    (ready : .connectivity ∈ v.tasks → .connectivity ∈ w.tasks) : w.Wired position where
  listens := connectivity.trans wired.listens
  receivers := monitor ▸ wired.receivers
  capacity := monitor ▸ wired.capacity
  reached := monitor ▸ wired.reached
  ready behind := ready (wired.ready (monitor ▸ behind))
  latest := monitor ▸ wired.latest

theorem turnedTo_of_ne {online : Bool} (turned : v.monitor.online ≠ online)
    (wired : v.Wired position) :
    v.turnedTo online =
      { v with
        monitor := ⟨online, v.monitor.changes.send online⟩
        tasks := withTask .connectivity v.tasks } := by
  rw [turnedTo, if_neg turned, wired.listens]
  rfl

theorem turnedTo_of_eq {online : Bool} (same : v.monitor.online = online) :
    v.turnedTo online = v := by rw [turnedTo, if_pos same]

theorem Wired.turnedTo (wired : v.Wired position) (online : Bool) :
    (v.turnedTo online).Wired position := by
  by_cases same : v.monitor.online = online
  · rwa [turnedTo_of_eq same]
  · rw [turnedTo_of_ne same wired]
    -- The change is one more to be read, and the latest of all.
    have sent := Channel.sent_send wired.receivers online
    have reached := wired.reached
    refine ⟨wired.listens, ?_, ?_, ?_, fun _ => mem_withTask_self _ _, fun behind => ?_⟩
    · simp only [Channel.send, if_neg wired.receivers]
      exact wired.receivers
    · simp only [Channel.send, if_neg wired.receivers]
      exact wired.capacity
    · simp only [sent]
      omega
    · exact Channel.getLast?_receive
        (Channel.getLast?_recent_send wired.receivers wired.capacity online) behind

/-- A turn of the network is one more change to be read. -/
theorem Wired.behind_of_turned {online : Bool} (turned : v.monitor.online ≠ online)
    (wired : v.Wired position) : position < (v.turnedTo online).monitor.changes.sent := by
  rw [turnedTo_of_ne turned wired]
  have sent := Channel.sent_send wired.receivers online
  have reached := wired.reached
  simp only [sent]
  omega

theorem online_turnedTo (v : View) (online : Bool) :
    (v.turnedTo online).monitor.online = online := by
  unfold turnedTo
  split
  next same => exact same
  · rfl

/-- Whatever is read, tasks that are ready stay so. -/
theorem mem_heard_tasks {t : Task} {changes : List (Received Bool)} (ready : t ∈ v.tasks) :
    t ∈ (changes.foldl heard v).tasks := by
  induction changes generalizing v with
  | nil => exact ready
  | cons change changes ih =>
    refine ih ?_
    rcases change with (_ | _) | _
    · exact ready
    · exact List.mem_append_left _ ready
    · exact ready

/-- Who reads last that the network is back asks for a pass. -/
theorem drain_of_heard {changes : List (Received Bool)}
    (latest : changes.getLast? = some (.message true)) :
    .drain ∈ (changes.foldl heard v).tasks := by
  obtain ⟨earlier, rfl⟩ := List.getLast?_eq_some_iff.mp latest
  rw [List.foldl_append]
  exact List.mem_append_right _ List.mem_cons_self

end View

theorem mem_eraseIdx_of_ne {tasks : List Task} {position : Nat} {t u : Task}
    (there : tasks[position]? = some t) (other : u ≠ t) (ready : u ∈ tasks) :
    u ∈ tasks.eraseIdx position := by
  obtain ⟨i, found⟩ := List.mem_iff_getElem?.mp ready
  refine List.mem_eraseIdx_iff_getElem?.mpr ⟨i, ?_, found⟩
  rintro rfl
  exact other (Option.some.inj (found.symm.trans there))

/-! ## Requests for a pass -/

/-- A pass that was asked for after the latest turn of the network was not made, since one that was
in progress already at the beginning still was. -/
def Swallowed (past : List Occurrence) : Prop :=
  ∃ later earlier, past = later ++ .declined :: earlier ∧ (∀ online, .turned online ∉ later) ∧
    .ended ∉ earlier

/-- A pass is about to be asked for or made, unless it was tried in vain. -/
def Requested (past : List Occurrence) (v : View) : Prop :=
  .drain ∈ v.tasks ∨ (∃ position, v.Wired position ∧ position < v.monitor.changes.sent) ∨
    Swallowed past ∨ .unlisted ∈ past

/-- While the network is up and no pass has begun, one is requested. -/
structure Alert (past : List Occurrence) (v : View) : Prop where
  sound : v.Sound
  wired : ∃ position, v.Wired position
  finished : .began ∉ past → .ended ∈ past → v.pass = none
  requested : .began ∉ past → v.monitor.online = true → Requested past v

theorem Swallowed.grow {past done : List Occurrence} (swallowed : Swallowed past)
    (silent : ∀ online, .turned online ∉ done) : Swallowed (done ++ past) := by
  obtain ⟨later, earlier, rfl, none, running⟩ := swallowed
  refine ⟨done ++ later, earlier, by rw [List.append_assoc], fun online turned => ?_, running⟩
  rcases List.mem_append.mp turned with new | old
  · exact silent online new
  · exact none online old

theorem Shift.finished {policy : RetryPolicy} {now : Instant} {s t : Stock}
    {past done : List Occurrence} (shift : Shift policy now s done t)
    (finished : .began ∉ past → .ended ∈ past → s.pass = none)
    (still : .began ∉ done ++ past) (ended : .ended ∈ done ++ past) : t.pass = none := by
  rw [List.mem_append, not_or] at still
  cases shift with
  | @settle p a report waits orderly =>
    cases rest : p.rest with
    | nil => rfl
    | cons m rest' =>
      -- The pass goes on, so it was not this answer that ended one.
      have before : .ended ∈ past := by simpa [rest] using ended
      rw [finished still.2 before] at waits
      cases waits
  | panic waits => rfl
  | start idle listed => simp at still
  | quiet talk =>
    refine finished still.2 ((List.mem_append.mp ended).resolve_left fun h => ?_)
    cases talk _ h
  | clear => exact finished still.2 (by simpa using ended)
  | _ => exact finished still.2 (by simpa using ended)

namespace Alert

variable {past done : List Occurrence} {v w : View} {now : Instant}

theorem acted (alert : Alert past v) (acted : v.Acted now done w) : Alert (done ++ past) w := by
  obtain ⟨position, wired⟩ := alert.wired
  have wired' := wired.of_eq acted.monitor acted.connectivity (acted.tasks _)
  refine ⟨acted.sound alert.sound, ⟨position, wired'⟩, acted.shift.finished alert.finished,
    fun none online => ?_⟩
  rw [List.mem_append, not_or] at none
  rw [acted.monitor] at online
  rcases alert.requested none.2 online with
    ready | ⟨position', wired₁, behind⟩ | swallowed | unlisted
  · exact .inl (acted.tasks _ ready)
  · exact .inr (.inl ⟨position', wired₁.of_eq acted.monitor acted.connectivity (acted.tasks _),
      acted.monitor ▸ behind⟩)
  · -- The network did not turn, so what was declined was declined after its latest turn.
    exact .inr (.inr (.inl (swallowed.grow acted.silent)))
  · exact .inr (.inr (.inr (List.mem_append_right _ unlisted)))

/-- After a turn of the network there is something to read. -/
theorem turned (alert : Alert past v) (online : Bool) :
    Alert ((if v.monitor.online = online then [] else [.turned online]) ++ past)
      (v.turnedTo online) := by
  by_cases same : v.monitor.online = online
  · rw [View.turnedTo_of_eq same, if_pos same]
    exact alert
  · obtain ⟨position, wired⟩ := alert.wired
    rw [if_neg same]
    refine ⟨?_, ⟨position, wired.turnedTo online⟩, fun none ended => ?_, fun _ _ => ?_⟩
    · rw [View.turnedTo_eq]
      exact ⟨alert.sound.isOpen, alert.sound.healthy⟩
    · rw [View.turnedTo_eq]
      exact alert.finished (fun h => none (List.mem_cons_of_mem _ h)) (by simpa using ended)
    · -- Whatever was requested before, the turn itself is something to read now.
      exact .inr (.inl ⟨position, wired.turnedTo online, wired.behind_of_turned same⟩)

theorem carried (alert : Alert past v) (reports : List (Received NetworkStatus)) :
    Alert (Occurrence.ofReports v.monitor.online reports ++ past)
      (reports.foldl View.carried v) := by
  induction reports generalizing past v with
  | nil => exact alert
  | cons report reports ih =>
    cases report with
    | lagged _ => exact ih alert
    | message status =>
      have next := ih (alert.turned status.isReachable)
      rw [View.online_turnedTo, ← List.append_assoc] at next
      have same : (if v.monitor.online = status.isReachable then []
          else [Occurrence.turned status.isReachable]) =
          if status.isReachable = v.monitor.online then [] else [.turned status.isReachable] := by
        simp only [eq_comm]
      rw [same] at next
      exact next

end Alert

namespace Engine

variable {e : Engine}

/-- What comes of a pass in the background while the network is up. -/
theorem drain_cases (s : e.view.Sound) (online : e.view.monitor.online = true) (now : Instant) :
    (e.view.pass ≠ none ∧ (e.runTask now .drain).2 = [.declined]) ∨
      .began ∈ (e.runTask now .drain).2 ∨ .unlisted ∈ (e.runTask now .drain).2 := by
  cases waits : e.view.pass with
  | some p =>
    refine .inl ⟨by simp, ?_⟩
    simp only [runTask, startPass_of_running online waits now]
  | none =>
    cases listed : e.view.database.mutations with
    | error fault =>
      obtain ⟨e', run, -⟩ := startPass_of_unlisted s online waits listed now
      exact .inr (.inr (by simp [runTask, run]))
    | ok queued =>
      obtain ⟨e', run, -⟩ := startPass_yields s online waits listed now
      refine .inr (.inl ?_)
      cases queued <;> simp [runTask, run, outcomeAfter, Occurrence.ofOutcome]

/-- The engine without a task that gets its turn. -/
def withoutTask (e : Engine) (position : Nat) : Engine :=
  { e with tasks := e.tasks.eraseIdx position }

end Engine

namespace Alert

variable {past : List Occurrence} {e : Engine} {position : Nat} {now : Instant}

theorem drain (alert : Alert past e.view) (there : e.tasks[position]? = some .drain) :
    Alert (((e.withoutTask position).runTask now .drain).2 ++ past)
      ((e.withoutTask position).runTask now .drain).1.view := by
  have sound : (e.withoutTask position).view.Sound := ⟨alert.sound.isOpen, alert.sound.healthy⟩
  have acted := Engine.drain_acts sound now
  obtain ⟨place, wired⟩ := alert.wired
  have left : (e.withoutTask position).view.Wired place :=
    wired.of_eq rfl rfl (mem_eraseIdx_of_ne there (by decide))
  refine ⟨acted.sound sound, ⟨place, left.of_eq acted.monitor acted.connectivity (acted.tasks _)⟩,
    acted.shift.finished alert.finished, fun still online => ?_⟩
  rw [List.mem_append, not_or] at still
  rw [acted.monitor] at online
  rcases Engine.drain_cases sound online now with ⟨running, done⟩ | began | unlisted
  · -- No pass has begun since, so the one that is running has not ended since.
    refine .inr (.inr (.inl ⟨[], past, by rw [done]; rfl, by simp, fun ended => ?_⟩))
    exact running (alert.finished still.2 ended)
  · exact absurd began still.1
  · exact .inr (.inr (.inr (List.mem_append_left _ unlisted)))

/-- Whoever reads the changes of the network has read them all then. -/
theorem connectivity (alert : Alert past e.view)
    (there : e.tasks[position]? = some .connectivity) :
    Alert past ((e.withoutTask position).runConnectivity now).view := by
  obtain ⟨place, wired⟩ := alert.wired
  have listens : (e.withoutTask position).view.connectivity = some place := wired.listens
  rw [Engine.view_runConnectivity, listens]
  simp only
  refine ⟨?_, ⟨e.view.monitor.changes.sent, ?_⟩, ?_, fun still online => ?_⟩
  · rw [View.heard_eq]
    exact ⟨alert.sound.isOpen, alert.sound.healthy⟩
  · rw [View.heard_eq]
    exact ⟨rfl, wired.receivers, wired.capacity, Nat.le_refl _,
      fun behind => absurd behind (Nat.lt_irrefl _), fun behind => absurd behind (Nat.lt_irrefl _)⟩
  · rw [View.heard_eq]
    exact alert.finished
  · rw [View.heard_eq] at online
    rcases alert.requested still online with ready | ⟨place', wired', behind⟩ | failed
    · exact .inl (View.mem_heard_tasks (mem_eraseIdx_of_ne there (by decide) ready))
    · -- The last change that waits is the state of the network, which is up: a pass is asked for.
      have same : place' = place := Option.some.inj (wired'.listens.symm.trans wired.listens)
      have latest := wired'.latest behind
      rw [show e.view.monitor.online = true from online, same] at latest
      exact .inl (View.drain_of_heard latest)
    · exact .inr (.inr failed)

theorem watch (alert : Alert past e.view) (there : e.tasks[position]? = some .watch) :
    Alert
      (Occurrence.ofReports (e.withoutTask position).isOnline
        (e.withoutTask position).reports ++ past)
      (e.withoutTask position).runWatch.view := by
  have kept (t : Task) (other : t ≠ .watch) (ready : t ∈ e.view.tasks) :
      t ∈ (e.withoutTask position).view.tasks := mem_eraseIdx_of_ne there other ready
  -- Taking the watch off the ready tasks, or moving its position, concerns no request.
  have left (w : Option Nat) (l : Option Listener) :
      Alert past { (e.withoutTask position).view with watch := w, listener := l } := by
    obtain ⟨place, wired⟩ := alert.wired
    refine ⟨⟨alert.sound.isOpen, alert.sound.healthy⟩,
      ⟨place, wired.of_eq rfl rfl (kept _ (by decide))⟩, alert.finished, fun still online => ?_⟩
    rcases alert.requested still online with ready | ⟨place', wired', behind⟩ | failed
    · exact .inl (kept _ (by decide) ready)
    · exact .inr (.inl ⟨place', wired'.of_eq rfl rfl (kept _ (by decide)), behind⟩)
    · exact .inr (.inr failed)
  rw [Engine.view_runWatch]
  unfold Engine.reports
  cases watches : (e.withoutTask position).watch with
  | none =>
    simp only [show (e.withoutTask position).view.watch = none from watches]
    exact left e.watch e.listener
  | some place =>
    cases hears : (e.withoutTask position).listener with
    | none =>
      simp only [show (e.withoutTask position).view.watch = some place from watches,
        show (e.withoutTask position).view.listener = none from hears]
      exact left e.watch e.listener
    | some listener =>
      simp only [show (e.withoutTask position).view.watch = some place from watches,
        show (e.withoutTask position).view.listener = some listener from hears]
      exact (left (some listener.reports.sent) (some listener)).carried _

/-- Every move keeps the request alive. -/
theorem perform (alert : Alert past e.view) {move : Move}
    (fresh : move.IsFresh e.view.queueRows) :
    Alert ((e.perform now move).2 ++ past) (e.perform now move).1.view := by
  cases move with
  | setOnline online =>
    have turned := alert.turned online
    rw [← Engine.view_setOnline] at turned
    simp only [Engine.perform, Engine.setOnline_changed]
    by_cases same : e.view.monitor.online = online
    · simpa [same] using turned
    · simpa [same] using turned
  | run position =>
    simp only [Engine.perform]
    cases there : e.tasks[position]? with
    | none => exact alert
    | some t =>
      cases t with
      | drain => exact alert.drain there
      | connectivity => exact alert.connectivity there
      | watch => exact alert.watch there
  | _ => exact alert.acted (Engine.perform_acts alert.sound now fresh trivial)

/-- A run keeps the request alive. -/
theorem of_run {s t : Session} (run : Session.Run (fun s _ move => s.NewId move) s t)
    (alert : Alert past s.engine.view) :
    ∃ later, t.past = later ++ s.past ∧ Alert (later ++ past) t.engine.view := by
  induction run with
  | refl => exact ⟨[], rfl, alert⟩
  | @step t _ now move new ih =>
    obtain ⟨later, told, alert⟩ := ih
    refine ⟨(t.engine.perform now move).2 ++ later, ?_, ?_⟩
    · rw [Session.past_after, told, List.append_assoc]
    · rw [List.append_assoc]
      exact alert.perform new.isFresh

end Alert

/-- An engine that was started follows the changes of the network from the first one on. -/
theorem View.Wired.of_start {c : Config} {disk : Disk} {listener : Option Listener}
    {history : List LogLine} {revision : String} {now : Instant} {e : Engine}
    (started : Engine.start c disk listener history revision now = .ready e) :
    e.view.Wired 0 := by
  obtain ⟨storage, lines, -, start⟩ := Engine.view_start started
  have announced {v : View} (wired : v.Wired 0) : v.announced.Wired 0 := by
    rw [View.announced]
    split
    · exact wired.of_eq rfl rfl (List.mem_append_left _)
    · exact wired
  have beginning : (View.beginning c.policy storage c.startOnline).Wired 0 :=
    ⟨rfl, Nat.one_ne_zero, Channel.capacity_ofCapacity (α := Bool) 100, Nat.le_refl _,
      fun behind => absurd behind (Nat.lt_irrefl _), fun behind => absurd behind (Nat.lt_irrefl _)⟩
  rcases start with view | ⟨reachable, l, position, view⟩
  · exact view ▸ announced beginning
  · rw [view]
    exact announced ((beginning.turnedTo reachable).of_eq rfl rfl mem_withTask_of_mem)

/-- An engine that was started and can reach the remote side is about to make a pass. -/
theorem Alert.of_start {c : Config} {disk : Disk} {listener : Option Listener}
    {history : List LogLine} {revision : String} {now : Instant} {e : Engine}
    (started : Engine.start c disk listener history revision now = .ready e)
    (healthy : e.view.database.Healthy) : Alert [] e.view := by
  obtain ⟨storage, lines, opened, link, -, -⟩ := Engine.store_of_start started
  have isOpen : e.view.link.isSome = true := link ▸ Storage.link_of_ensureOpen opened
  -- With or without a listener, a start at a reachable remote side asks for a first pass.
  obtain ⟨v, view⟩ : ∃ v : View, e.view = v.announced := by
    obtain ⟨_, _, -, view | ⟨_, _, _, view⟩⟩ := Engine.view_start started
    · exact ⟨_, view⟩
    · exact ⟨_, view⟩
  refine ⟨⟨isOpen, healthy⟩, ⟨0, .of_start started⟩, fun _ ended => (by cases ended),
    fun _ online => .inl ?_⟩
  rw [view, View.announced] at online ⊢
  split at online
  next reached =>
    rw [if_pos reached]
    exact List.mem_append_right _ List.mem_cons_self
  next unreached => exact absurd online unreached

/-! ## Offers to the remote side -/

/-- If a pass began while an id is in the queue, the id was sent since, or the pass in progress has
still to send it. -/
def Offered (id : String) (past : List Occurrence) (sent : List Mutation) (s : Stock) : Prop :=
  .text id ∈ keysOf s.queue → .began ∈ past →
    (∃ m ∈ sent, m.id = id) ∨ ∃ p, s.pass = some p ∧ ∃ m ∈ p.rest, m.id = id

/-- A pass that goes on sends the first one of what is left and keeps the others. -/
theorem Stock.continued_offers {s : Stock} {rest : List Mutation} {report : Report} {id : String}
    (left : ∃ m ∈ rest, m.id = id) :
    (∃ m ∈ rest.head?.toList, m.id = id) ∨
      ∃ p, (s.continued rest report).pass = some p ∧ ∃ m ∈ p.rest, m.id = id := by
  obtain ⟨m, member, same⟩ := left
  cases rest with
  | nil => cases member
  | cons first rest =>
    rcases List.mem_cons.mp member with rfl | later
    · exact .inl ⟨m, by simp, same⟩
    · exact .inr ⟨_, rfl, m, later, same⟩

/-- Occurrences after which an id stands for the same mutation, and no call was lost. -/
structure Orderly (id : String) (past : List Occurrence) : Prop where
  queued : ∀ c, .queued c ∈ past → c.id ≠ id
  requeued : .requeued id ∉ past
  answered : ∀ m, .answered m .panicked ∉ past

namespace Offered

variable {id : String} {past done : List Occurrence} {sent : List Mutation} {s t : Stock}

/-- What happens outside of the pass: the id leaves the queue, or others join it. -/
theorem of_queue (offered : Offered id past sent s)
    (fewer : .text id ∈ keysOf t.queue → .text id ∈ keysOf s.queue) (pass : t.pass = s.pass)
    (same : .began ∉ done) : Offered id (done ++ past) (sent ++ []) t := by
  intro inQueue began
  rw [List.append_nil, pass]
  exact offered (fewer inQueue) ((List.mem_append.mp began).resolve_left same)

theorem continued {rest : List Mutation} {report : Report}
    (left : .text id ∈ keysOf s.queue → .began ∈ past →
      (∃ m ∈ sent, m.id = id) ∨ ∃ m ∈ rest, m.id = id) :
    Offered id past (sent ++ rest.head?.toList) (s.continued rest report) := by
  intro inQueue began
  rw [Stock.continued_queue] at inQueue
  rcases left inQueue began with ⟨m, member, same⟩ | waiting
  · exact .inl ⟨m, List.mem_append_left _ member, same⟩
  · refine (Stock.continued_offers waiting).imp_left ?_
    rintro ⟨m, member, same⟩
    exact ⟨m, List.mem_append_right _ member, same⟩

theorem shift {policy : RetryPolicy} {now : Instant} (offered : Offered id past sent s)
    (shift : Shift policy now s done t) (orderly : Orderly id done) :
    ∃ more, t.deliveries = s.deliveries ++ more ∧ Offered id (done ++ past) (sent ++ more) t := by
  have alone : s.deliveries = s.deliveries ++ [] := (List.append_nil _).symm
  cases shift with
  | quiet talk =>
    refine ⟨[], alone, offered.of_queue (fun h => h) rfl fun h => ?_⟩
    cases talk _ h
  | @queue c fresh =>
    refine ⟨[], alone, offered.of_queue (fun h => ?_) rfl (by simp)⟩
    refine ((mem_keysOf_added rfl).mp h).resolve_right fun same => ?_
    exact orderly.queued c List.mem_cons_self (Cell.text.inj same).symm
  | remove present =>
    exact ⟨[], alone, offered.of_queue (fun h => (mem_keysOf_without.mp h).1) rfl (by simp)⟩
  | clear => exact ⟨[], alone, offered.of_queue (fun h => by cases h) rfl (by simp)⟩
  | bury found read =>
    exact ⟨[], alone, offered.of_queue (fun h => (mem_keysOf_without.mp h).1) rfl (by simp)⟩
  | @revive id' r l found read fresh =>
    refine ⟨[], alone, offered.of_queue (fun h => ?_) rfl (by simp)⟩
    refine ((mem_keysOf_added rfl).mp h).resolve_right fun same => orderly.requeued ?_
    rw [Cell.text.inj same, Mutation.renewed, DeadLetter.id_of_found found read]
    exact List.mem_cons_self
  | discard present => exact ⟨[], alone, offered.of_queue (fun h => h) rfl (by simp)⟩
  -- A pass lists the whole queue, the id included.
  | @start queued idle listed =>
    refine ⟨_, s.continued_deliveries _ _, .continued fun inQueue _ => .inr ?_⟩
    exact List.mem_map.mp ((mem_listed_iff listed).mpr inQueue)
  | @settle p a report waits steady =>
    refine ⟨_, ?_, .continued fun inQueue began => ?_⟩
    · rw [Stock.continued_deliveries, Stock.settled_deliveries]
    · -- An answer begins no pass, so the one in progress had the id in its list.
      have before : .began ∈ past := (List.mem_append.mp began).resolve_left (by simp)
      refine (offered (Stock.mem_keysOf_settled steady inQueue).1 before).imp_right ?_
      rintro ⟨p', waits', waiting⟩
      rw [waits] at waits'
      cases waits'
      exact waiting
  | @panic p waits =>
    exact absurd (List.mem_cons_of_mem _ List.mem_cons_self) (orderly.answered p.current)

end Offered

/-! ## Offline periods -/

/-- A run of an engine in which a change was queued while the network was down. The first session is
the one in which the change has just been queued. In the second one the network is up, no task is
ready and no call is in flight, and the change is still in the queue. -/
structure OfflinePeriod (e : Engine) (c : Change) (s t : Session) : Prop where
  offline : ∃ clock before now move, s = Session.after before now move ∧
    Session.Run (fun s _ move => s.NewId move) ⟨e, [], clock⟩ before ∧
    before.engine.isOnline = false ∧ before.NewId move ∧
    .queued c ∈ (before.engine.perform now move).2
  run : Session.Run (fun s _ move => s.NewId move) s t
  once : .requeued c.id ∉ t.past
  answered : ∀ m, .answered m .panicked ∉ t.past
  online : t.engine.isOnline = true
  idle : t.engine.tasks = []
  free : t.engine.inFlight = none
  queued : .text c.id ∈ keysOf t.engine.view.queueRows

/-- When a change is queued, nothing else is done. -/
theorem Session.after_of_queued {s : Session} (sound : s.engine.view.Sound) {now : Instant}
    {move : Move} {c : Change} (new : s.NewId move)
    (queued : .queued c ∈ (s.engine.perform now move).2) :
    (s.after now move).engine.view.monitor = s.engine.view.monitor := by
  have direct : move.IsDirect := by
    have queues := Engine.change_of_queued queued
    cases move with
    | enqueue _ | mutate _ => trivial
    | _ => cases queues
  exact (Engine.perform_acts sound now new.isFresh direct).monitor

/-- A run offers what was queued at its beginning. -/
theorem Offered.of_run {s t : Session} {c : Change}
    (run : Session.Run (fun s _ move => s.NewId move) s t) (sound : s.engine.view.Sound)
    (queued : .queued c ∈ s.past) (once : .requeued c.id ∉ t.past)
    (answered : ∀ m, .answered m .panicked ∉ t.past) :
    ∃ later sent, t.past = later ++ s.past ∧
      t.engine.deliveries = s.engine.deliveries ++ sent ∧ t.engine.view.Sound ∧
      Offered c.id later sent t.engine.view.stock := by
  induction run with
  | refl => exact ⟨[], [], rfl, (List.append_nil _).symm, sound, fun _ began => by cases began⟩
  | @step t _ now move new ih =>
    rw [Session.past_after, List.mem_append, not_or] at once
    obtain ⟨later, sent, told, deliveries, sound, offered⟩ := ih once.2
      fun m h => answered m (List.mem_append_right _ h)
    have moved := Session.after_moved sound now new.isFresh
    have orderly : Orderly c.id (t.engine.perform now move).2 := by
      refine ⟨fun c' h same => ?_, once.1, fun m h => answered m (List.mem_append_left _ h)⟩
      refine new c' (Engine.change_of_queued h) (same ▸ Session.taken_of_queued (c := c) ?_)
      rw [told]
      exact List.mem_append_right _ queued
    obtain ⟨more, grown, offered⟩ := offered.shift moved.shift orderly
    refine ⟨(t.engine.perform now move).2 ++ later, sent ++ more, ?_, ?_, moved.sound sound,
      offered⟩
    · rw [Session.past_after, told, List.append_assoc]
    · rw [← List.append_assoc, ← deliveries]
      exact grown

/-- Whatever was queued while the network was down was sent since, or no pass has begun since: the
one that was asked for when the network came back was declined for the sake of one that was in
progress already when the change was queued, or it could not list the queue. -/
theorem offline_changes_are_sent {config : Config} {disk : Disk} {listener : Option Listener}
    {history : List LogLine} {revision : String} {start : Instant} {e : Engine}
    (started : Engine.start config disk listener history revision start = .ready e)
    (healthy : e.view.database.Healthy) {c : Change} {s t : Session}
    (period : OfflinePeriod e c s t) :
    ∃ later sent, t.past = later ++ s.past ∧
      t.engine.deliveries = s.engine.deliveries ++ sent ∧
      ((∃ m ∈ sent, m.id = c.id) ∨
        .began ∉ later ∧ (Swallowed later ∨ .unlisted ∈ later)) := by
  obtain ⟨clock, before, now, move, rfl, run, offline, new, queues⟩ := period.offline
  obtain ⟨earlier, -, alert⟩ := Alert.of_run run (Alert.of_start started healthy)
  -- Nothing is requested at first, since the network is down.
  have alert₁ : Alert [] (before.after now move).engine.view := by
    have moved : Alert ((before.engine.perform now move).2 ++ (earlier ++ []))
        (before.after now move).engine.view := alert.perform new.isFresh
    refine ⟨moved.sound, moved.wired, fun _ ended => (by cases ended), fun _ online => ?_⟩
    rw [Session.after_of_queued alert.sound new queues] at online
    exact absurd (online.symm.trans offline) (by decide)
  obtain ⟨later, told, alert'⟩ := Alert.of_run period.run alert₁
  obtain ⟨later', sent, told', deliveries, -, offered⟩ := Offered.of_run (c := c) period.run
    alert₁.sound (List.mem_append_left _ queues) period.once period.answered
  obtain rfl : later' = later := List.append_cancel_right (told'.symm.trans told)
  refine ⟨later', sent, told, deliveries, ?_⟩
  have free : t.engine.view.pass = none := Option.map_eq_none_iff.mp period.free
  by_cases began : .began ∈ later'
  · refine (offered period.queued began).imp_right ?_
    rintro ⟨p, waits, -⟩
    exact absurd (free.symm.trans waits) (by simp)
  · rw [List.append_nil] at alert'
    -- No task is ready, so of all that could become of the request only its failures are left.
    have ready (task : Task) : task ∉ t.engine.view.tasks := by
      rw [show t.engine.view.tasks = [] from period.idle]
      exact List.not_mem_nil
    rcases alert'.requested began period.online with
      drain | ⟨position, wired, behind⟩ | swallowed | unlisted
    · exact absurd drain (ready _)
    · exact absurd (wired.ready behind) (ready _)
    · exact .inr ⟨began, .inl swallowed⟩
    · exact .inr ⟨began, .inr unlisted⟩

namespace OfflinePeriod

def sampleConfig : Config :=
  { Config.default "data" with inMemory := true, remoteUrl := "http://[::1]:8080/api" }

def sampleEngine : Engine :=
  match Engine.start sampleConfig ⟨[]⟩ none [] "" .epoch with
  | .ready e => e
  | _ => .inMemory .default true

def sampleFirst : Change := ⟨"m1", .create, .incidents, "i1", .null⟩

def sampleSecond : Change := ⟨"m2", .create, .incidents, "i2", .null⟩

/-- The network goes down, and a change is queued. -/
def sampleDown : Session :=
  (⟨sampleEngine, [], .epoch⟩ : Session).through [.run 0, .run 0, .setOnline false, .run 0]

/-- The network comes back, and the call for the change fails. -/
def sampleBack : Session :=
  (sampleDown.after .epoch (.enqueue sampleSecond)).through
    [.setOnline true, .run 0, .run 0, .answer (.failed (.transient "HTTP 503"))]

/-- The network goes down while a call is in flight, and another change is queued. -/
def sampleDownInFlight : Session :=
  (⟨sampleEngine, [], .epoch⟩ : Session).through
    [.run 0, .run 0, .enqueue sampleFirst, .run 0, .setOnline false, .run 0]

/-- The network comes back before the call is answered. -/
def sampleBackInFlight : Session :=
  (sampleDownInFlight.after .epoch (.enqueue sampleSecond)).through
    [.setOnline true, .run 0, .run 0, .answer .confirmed]

theorem sample_started :
    Engine.start sampleConfig ⟨[]⟩ none [] "" .epoch = .ready sampleEngine :=
  Launch.eq_ready (by decide +kernel) (.inMemory .default true)

theorem sample_healthy : sampleEngine.view.database.Healthy :=
  Engine.healthy_of_start sample_started (by decide +kernel)

theorem sampleBack_past : sampleBack.past =
    [.ended, .answered (sampleSecond.fresh .epoch) (.failed (.transient "HTTP 503")), .began,
      .turned true] ++ (sampleDown.after .epoch (.enqueue sampleSecond)).past := by
  decide +kernel

theorem sampleBackInFlight_past : sampleBackInFlight.past =
    [.ended, .answered (sampleFirst.fresh .epoch) .confirmed, .declined, .turned true] ++
      (sampleDownInFlight.after .epoch (.enqueue sampleSecond)).past := by
  decide +kernel

theorem sample_offline_period : OfflinePeriod sampleEngine sampleSecond
    (sampleDown.after .epoch (.enqueue sampleSecond)) sampleBack where
  offline := ⟨.epoch, sampleDown, .epoch, .enqueue sampleSecond, rfl,
    .through .refl (by decide +kernel), by decide +kernel, by decide +kernel, by decide +kernel⟩
  run := .through .refl (by decide +kernel)
  once := by decide +kernel
  answered := by
    have before : (sampleDown.after .epoch (.enqueue sampleSecond)).past =
        [.queued sampleSecond, .turned false, .ended, .began] := by decide +kernel
    simp [sampleBack_past, before]
  online := by decide +kernel
  idle := by decide +kernel
  free := by decide +kernel
  queued := by decide +kernel

theorem sample_offline_period_in_flight : OfflinePeriod sampleEngine sampleSecond
    (sampleDownInFlight.after .epoch (.enqueue sampleSecond)) sampleBackInFlight where
  offline := ⟨.epoch, sampleDownInFlight, .epoch, .enqueue sampleSecond, rfl,
    .through .refl (by decide +kernel), by decide +kernel, by decide +kernel, by decide +kernel⟩
  run := .through .refl (by decide +kernel)
  once := by decide +kernel
  answered := by
    have before : (sampleDownInFlight.after .epoch (.enqueue sampleSecond)).past =
        [.queued sampleSecond, .turned false, .began, .queued sampleFirst, .ended, .began] := by
      decide +kernel
    simp [sampleBackInFlight_past, before]
  online := by decide +kernel
  idle := by decide +kernel
  free := by decide +kernel
  queued := by decide +kernel

end OfflinePeriod

/-- The theorem at an offline period after which the change is sent once and fails for a while. -/
theorem failed_change_was_sent :
    ∃ sent, OfflinePeriod.sampleBack.engine.deliveries =
        (OfflinePeriod.sampleDown.after .epoch
          (.enqueue OfflinePeriod.sampleSecond)).engine.deliveries ++ sent ∧
      ∃ m ∈ sent, m.id = "m2" := by
  obtain ⟨later, sent, told, deliveries, outcome⟩ := offline_changes_are_sent
    OfflinePeriod.sample_started OfflinePeriod.sample_healthy OfflinePeriod.sample_offline_period
  obtain rfl := List.append_cancel_right (told.symm.trans OfflinePeriod.sampleBack_past)
  exact ⟨sent, deliveries, outcome.resolve_right fun unsent => absurd unsent.1 (by simp)⟩

/-- Not all that was queued while the network was down is sent when it is back and all is quiet: a
call that takes longer than the offline period lets a change wait. -/
theorem offline_period_in_flight_leaves_unsent :
    ¬ ∀ (config : Config) (disk : Disk) (e : Engine),
      Engine.start config disk none [] "" .epoch = .ready e → e.view.database.Healthy →
      ∀ (c : Change) (s t : Session), OfflinePeriod e c s t →
        ∃ sent, t.engine.deliveries = s.engine.deliveries ++ sent ∧ ∃ m ∈ sent, m.id = c.id := by
  intro always
  obtain ⟨sent, deliveries, m, member, -⟩ := always _ _ _ OfflinePeriod.sample_started
    OfflinePeriod.sample_healthy _ _ _ OfflinePeriod.sample_offline_period_in_flight
  have same : OfflinePeriod.sampleBackInFlight.engine.deliveries =
      (OfflinePeriod.sampleDownInFlight.after .epoch
        (.enqueue OfflinePeriod.sampleSecond)).engine.deliveries := by decide +kernel
  rw [same] at deliveries
  rw [List.self_eq_append_right.mp deliveries] at member
  cases member

end Outbox
