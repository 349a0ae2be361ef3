import Outbox.Proofs.Reconciliation
import Outbox.Proofs.Signals

/-!
# What is published of the network

The state of the network is published by a task that reads its turns from a channel, and the channel
forgets the oldest of them when there are too many. The latest turn is never forgotten and is read
last, so whenever the task has nothing left to read, the latest state that was published is the one
that the monitor has; and where that is a connection, a pass was asked for afterwards. The invariant
says so of all effects since some point of a run, from the first turn after that point on. Neither
the store nor what passes do is of any concern.
-/
namespace Outbox

open Time

/-! ## States of the network in a trace -/

/-- Of the states of the network that some effects publish, the latest is this one; and where it is
a connection, a pass was asked for after that. -/
def LatestNetwork (online : Bool) (told : List Effect) : Prop :=
  ∃ later now earlier,
    told =
      later ++ .emitted (.statusChanged (if online then .online else .offline) now) :: earlier ∧
    (∀ x ∈ later, x.topic ≠ .network) ∧ (online = true → .drainRequested ∈ later)

namespace LatestNetwork

variable {online : Bool} {told : List Effect}

theorem append (latest : LatestNetwork online told) (before : List Effect) :
    LatestNetwork online (told ++ before) := by
  obtain ⟨later, now, earlier, rfl, silent, asked⟩ := latest
  exact ⟨later, now, earlier ++ before, by simp, silent, asked⟩

/-- What is about other topics does not change what the network is said to be. -/
theorem talk (latest : LatestNetwork online told) {later : List Effect}
    (silent : ∀ x ∈ later, x.topic ≠ .network) : LatestNetwork online (later ++ told) := by
  obtain ⟨since, now, earlier, rfl, silent', asked⟩ := latest
  refine ⟨later ++ since, now, earlier, by simp, fun x member => ?_, fun up => ?_⟩
  · exact (List.mem_append.mp member).elim (silent x) (silent' x)
  · exact List.mem_append_right _ (asked up)

end LatestNetwork

/-- The turn of the network that an occurrence tells of. -/
def Occurrence.turn? : Occurrence → Option Bool
  | .turned online => some online
  | _ => none

/-- The latest turn of the network. -/
def latestTurn (past : List Occurrence) : Option Bool := (past.filterMap Occurrence.turn?).head?

theorem latestTurn_append {done : List Occurrence} (silent : ∀ online, .turned online ∉ done)
    (past : List Occurrence) : latestTurn (done ++ past) = latestTurn past := by
  have none : done.filterMap Occurrence.turn? = [] := by
    refine List.filterMap_eq_nil_iff.mpr fun d member => ?_
    cases d with
    | turned online => exact absurd member (silent online)
    | _ => rfl
  rw [latestTurn, List.filterMap_append, none, List.nil_append, latestTurn]

/-! ## Announcements -/

namespace Engine

/-- A change that is announced is the latest that is said of the network. -/
theorem announce_latestNetwork (now : Instant) (e : Engine) (online : Bool) :
    ∃ told, (announce now e (.message online)).trace = told ++ e.trace ∧
      LatestNetwork online told := by
  -- A published status ends what was told to the callbacks.
  have published (status : Status) : ∃ calls,
      (e.publish status now).trace =
        .emitted (.statusChanged status now) :: (calls ++ e.trace) := by
    obtain ⟨told, adds, publish⟩ := e.publish_eq status now
    obtain ⟨calls, trace, -⟩ := (adds []).told
    exact ⟨calls, publish ▸ congrArg _ trace⟩
  cases online with
  | true =>
    obtain ⟨calls, trace⟩ := published .online
    refine ⟨.drainRequested :: .emitted (.statusChanged .online now) :: calls, ?_,
      [.drainRequested], now, calls, rfl, by simp [Effect.topic], by simp⟩
    exact congrArg (Effect.drainRequested :: ·) trace
  | false =>
    obtain ⟨calls, trace⟩ := published .offline
    exact ⟨.emitted (.statusChanged .offline now) :: calls, trace, [], now, calls, rfl, by simp,
      by simp⟩

/-- Whoever announces some changes is heard with the last of them. -/
theorem foldl_announce_latestNetwork (now : Instant) (e : Engine) {changes : List (Received Bool)}
    {online : Bool} (latest : changes.getLast? = some (.message online)) :
    ∃ told, (changes.foldl (announce now) e).trace = told ++ e.trace ∧
      LatestNetwork online told := by
  obtain ⟨earlier, rfl⟩ := List.getLast?_eq_some_iff.mp latest
  rw [List.foldl_append]
  obtain ⟨before, trace, -⟩ :=
    (Owes.foldl (fun e change => e.adds_announce now change) e earlier).told
  obtain ⟨told, trace', latest⟩ :=
    announce_latestNetwork now (earlier.foldl (announce now) e) online
  refine ⟨told ++ before, ?_, latest.append before⟩
  rw [List.foldl_cons, List.foldl_nil, trace', trace, List.append_assoc]

/-- An engine that begins to work says what the network is. -/
theorem announceStart_latestNetwork (e : Engine) (now : Instant) :
    LatestNetwork e.isOnline (e.announceStart now).trace := by
  obtain ⟨told, trace, latest⟩ := announce_latestNetwork now e e.isOnline
  have same : (e.announceStart now).trace =
      .logged (.info ("✅ 离线同步引擎初始化完成 (online=" ++ toString e.isOnline ++ ")")) ::
        (announce now e (.message e.isOnline)).trace := by
    unfold announceStart
    cases e.isOnline <;> rfl
  rw [same, trace, ← List.singleton_append]
  exact (latest.append e.trace).talk (by simp [Effect.topic])

/-- Nothing but the network turns the network. -/
theorem not_turned_of_direct {e : Engine} {now : Instant} {move : Move} (direct : move.IsDirect)
    (online : Bool) : .turned online ∉ (e.perform now move).2 := by
  intro turned
  cases tells_of_mem turned with
  | pass about => cases about
  | setOnline | run => cases direct

theorem not_turned_of_drain (e : Engine) (now : Instant) (online : Bool) :
    .turned online ∉ (e.runTask now .drain).2 := fun turned => by
  cases isPass_of_drain turned

end Engine

/-! ## The invariant -/

/-- An engine some occurrences after a point of a run, and the effects before that point. If the
network has turned since and the connectivity task is not behind, the effects since that point say
last what the state of the network is. -/
structure NetworkTold (base : List Effect) (past : List Occurrence) (e : Engine) : Prop where
  grown : ∃ told, e.trace = told ++ base
  turned : ∀ online ∈ latestTurn past, e.isOnline = online
  kept : e.monitor.changes.recent.length ≤ e.monitor.changes.sent
  wired : ∃ position, e.view.Wired position ∧
    (position = e.monitor.changes.sent → latestTurn past ≠ none →
      ∃ told, e.trace = told ++ base ∧ LatestNetwork e.isOnline told)

namespace NetworkTold

variable {base : List Effect} {past done : List Occurrence} {topics : List Topic} {e e' : Engine}
  {now : Instant}

/-- What does not concern the network leaves that as it is. -/
theorem quiet (network : NetworkTold base past e) (said : Engine.Shows topics e e')
    (other : .network ∉ .note :: topics) (monitor : e'.monitor = e.monitor)
    (connectivity : e'.connectivity = e.connectivity)
    (ready : .connectivity ∈ e.tasks → .connectivity ∈ e'.tasks)
    (silent : ∀ online, .turned online ∉ done) : NetworkTold base (done ++ past) e' := by
  obtain ⟨position, wired, latest⟩ := network.wired
  obtain ⟨before, grown⟩ := network.grown
  obtain ⟨told, trace, silent'⟩ := said.apart other
  have online : e'.isOnline = e.isOnline := congrArg Monitor.online monitor
  have same := latestTurn_append silent past
  refine ⟨⟨told ++ before, by rw [trace, grown, List.append_assoc]⟩, ?_, monitor ▸ network.kept,
    position, wired.of_eq monitor connectivity ready, fun reached turned => ?_⟩
  · rw [same, online]
    exact network.turned
  · rw [monitor] at reached
    rw [same] at turned
    obtain ⟨since, trace', latest⟩ := latest reached turned
    exact ⟨told ++ since, by rw [trace, trace', List.append_assoc], online ▸ latest.talk silent'⟩

theorem adds (network : NetworkTold base past e) (adds : Engine.Adds topics e e')
    (other : .network ∉ .note :: topics) (silent : ∀ online, .turned online ∉ done) :
    NetworkTold base (done ++ past) e' :=
  network.quiet adds.told other adds.monitor adds.connectivity (fun ready => adds.tasks ready)
    silent

/-- Another task than the connectivity task leaves the ready ones. -/
theorem withoutTask (network : NetworkTold base past e) {position : Nat} {t : Task}
    (there : e.tasks[position]? = some t) (other : .connectivity ≠ t) :
    NetworkTold base past (e.withoutTask position) := by
  have said : Engine.Shows [] e (e.withoutTask position) := .refl e
  have left : NetworkTold base ([] ++ past) (e.withoutTask position) :=
    network.quiet said (by simp) rfl rfl (mem_eraseIdx_of_ne there other) (by simp)
  exact left

/-- After a turn of the network there is something to read. -/
theorem setOnline (network : NetworkTold base past e) (online : Bool) :
    NetworkTold base ((if e.isOnline = online then [] else [.turned online]) ++ past)
      (e.setOnline online).1 := by
  have said : Engine.Shows [] e (e.setOnline online).1 := (e.recounts_setOnline online).told
  have view := e.view_setOnline online
  by_cases same : e.isOnline = online
  · rw [if_pos same]
    rw [View.turnedTo_of_eq same] at view
    have tasks : (e.setOnline online).1.tasks = e.tasks := congrArg View.tasks view
    exact network.quiet said (by simp) (congrArg View.monitor view)
      (congrArg View.connectivity view) (fun ready => tasks ▸ ready) (by simp)
  · rw [if_neg same]
    obtain ⟨position, wired, -⟩ := network.wired
    obtain ⟨before, grown⟩ := network.grown
    obtain ⟨told, trace, -⟩ := said
    have monitor : (e.setOnline online).1.monitor = (e.view.turnedTo online).monitor :=
      congrArg View.monitor view
    -- The task is behind now, so nothing is claimed about what it has told until it reads again.
    have behind := wired.behind_of_turned same
    refine ⟨⟨told ++ before, by rw [trace, grown, List.append_assoc]⟩, ?_, ?_, position,
      view ▸ wired.turnedTo online, fun reached => ?_⟩
    · intro turn latest
      cases latest
      exact (congrArg Monitor.online monitor).trans (e.view.online_turnedTo online)
    · rw [monitor, View.turnedTo_of_ne same wired]
      exact Channel.kept_send network.kept online
    · rw [monitor] at reached
      exact absurd reached (Nat.ne_of_lt behind)

theorem carryOver (network : NetworkTold base past e) (reports : List (Received NetworkStatus)) :
    NetworkTold base (Occurrence.ofReports e.isOnline reports ++ past)
      (reports.foldl Engine.carryOver e) := by
  induction reports generalizing past e with
  | nil => exact network
  | cons report reports ih =>
    cases report with
    | lagged missed =>
      have logged : Engine.Adds [] e (e.carryOver (.lagged missed)) := e.adds_log _
      have left : NetworkTold base ([] ++ past) (e.carryOver (.lagged missed)) :=
        network.adds logged (by simp) (by simp)
      have next := ih left
      rw [show (e.carryOver (.lagged missed)).isOnline = e.isOnline from
        congrArg Monitor.online logged.monitor] at next
      exact next
    | message status =>
      have next := ih (network.setOnline status.isReachable)
      have online : (e.setOnline status.isReachable).1.isOnline = status.isReachable :=
        (congrArg (·.monitor.online) (e.view_setOnline _)).trans (e.view.online_turnedTo _)
      rw [online, ← List.append_assoc] at next
      simp only [eq_comm (a := e.isOnline)] at next
      exact next

/-- The connectivity task reads all that waits and publishes it. -/
theorem connectivity (network : NetworkTold base past e) (position : Nat) :
    NetworkTold base past ((e.withoutTask position).runConnectivity now) := by
  obtain ⟨place, wired, latest⟩ := network.wired
  obtain ⟨before, grown⟩ := network.grown
  have listens : (e.withoutTask position).connectivity = some place := wired.listens
  have view := (e.withoutTask position).view_runConnectivity now
  rw [show (e.withoutTask position).view.connectivity = some place from wired.listens] at view
  simp only at view
  rw [View.heard_eq] at view
  have monitor : ((e.withoutTask position).runConnectivity now).monitor = e.monitor :=
    congrArg View.monitor view
  have online : ((e.withoutTask position).runConnectivity now).isOnline = e.isOnline :=
    congrArg Monitor.online monitor
  have run : (e.withoutTask position).runConnectivity now =
      (e.monitor.changes.receive place).foldl (Engine.announce now)
        { e.withoutTask position with connectivity := some e.monitor.changes.sent } := by
    simp only [Engine.runConnectivity, listens]
    rfl
  -- Either there is something to read, and the state of the network is the last of it, or not.
  have latest' : latestTurn past ≠ none → ∃ told,
      ((e.withoutTask position).runConnectivity now).trace = told ++ base ∧
        LatestNetwork e.isOnline told := by
    intro turned
    rcases Nat.lt_or_eq_of_le wired.reached with behind | reached
    · have latest : (e.monitor.changes.receive place).getLast? = some (.message e.isOnline) :=
        wired.latest behind
      obtain ⟨told, trace, latest⟩ := Engine.foldl_announce_latestNetwork now
        { e.withoutTask position with connectivity := some e.monitor.changes.sent } latest
      refine ⟨told ++ before, ?_, latest.append before⟩
      rw [run, trace, List.append_assoc]
      exact congrArg _ grown
    · have silent : e.monitor.changes.receive place = [] :=
        (show place = e.monitor.changes.sent from reached) ▸ Channel.receive_sent network.kept
      rw [run, silent]
      exact latest reached turned
  obtain ⟨told, trace, -⟩ := ((e.withoutTask position).recounts_runConnectivity now).told
  refine ⟨⟨told ++ before, ?_⟩, ?_, monitor ▸ network.kept, e.monitor.changes.sent, ?_, fun _ => ?_⟩
  · rw [trace, List.append_assoc, ← grown]
    rfl
  · rw [online]
    exact network.turned
  · rw [view]
    exact ⟨rfl, wired.receivers, wired.capacity, Nat.le_refl _,
      fun behind => absurd behind (Nat.lt_irrefl _), fun behind => absurd behind (Nat.lt_irrefl _)⟩
  · rw [online]
    exact latest'

theorem watch (network : NetworkTold base past e) {position : Nat}
    (there : e.tasks[position]? = some .watch) :
    NetworkTold base (Occurrence.ofReports e.isOnline (e.withoutTask position).reports ++ past)
      (e.withoutTask position).runWatch := by
  -- Neither its turn nor its position in the reports is of any concern to the connectivity task.
  have left (place : Option Nat) (listener : Option Listener) :
      NetworkTold base past
        { e.withoutTask position with watch := place, listener := listener } := by
    have left := network.withoutTask there (by decide)
    obtain ⟨since, wired, latest⟩ := left.wired
    exact ⟨left.grown, left.turned, left.kept, since, wired.of_eq rfl rfl fun ready => ready,
      latest⟩
  unfold Engine.runWatch Engine.reports
  cases watches : (e.withoutTask position).watch with
  | none => exact left e.watch e.listener
  | some place =>
    cases hears : (e.withoutTask position).listener with
    | none => exact left e.watch e.listener
    | some listener => exact (left (some listener.reports.sent) (some listener)).carryOver _

/-- Every move keeps what is told of the network in step with it. -/
theorem perform (network : NetworkTold base past e) (now : Instant) (move : Move) :
    NetworkTold base ((e.perform now move).2 ++ past) (e.perform now move).1 := by
  cases move with
  | setOnline online =>
    have turned := network.setOnline online
    simp only [Engine.perform, Engine.setOnline_changed]
    by_cases same : e.isOnline = online
    · simpa [show e.view.monitor.online = online from same, same] using turned
    · simpa [show ¬ e.view.monitor.online = online from same, same] using turned
  | run position =>
    simp only [Engine.perform]
    cases there : e.tasks[position]? with
    | none => exact network
    | some t =>
      cases t with
      | drain =>
        have left := network.withoutTask there (by decide)
        exact left.adds ((e.withoutTask position).adds_drain now) (by simp)
          ((e.withoutTask position).not_turned_of_drain now)
      | connectivity => exact network.connectivity position
      | watch => exact network.watch there
  -- All other moves neither turn the network nor tell of it.
  | answer a =>
    exact network.adds (e.adds_perform_answer a now) (by simp)
      (Engine.not_turned_of_direct (by trivial))
  | _ =>
    exact network.adds (e.adds_perform now (by trivial) (by simp)) (by simp)
      (Engine.not_turned_of_direct (by trivial))

theorem of_run {allowed : Session → Instant → Move → Prop} {s t : Session}
    (run : Session.Run allowed s t) (network : NetworkTold base past s.engine) :
    ∃ later, t.past = later ++ s.past ∧ NetworkTold base (later ++ past) t.engine := by
  induction run with
  | refl => exact ⟨[], rfl, network⟩
  | @step t _ now move _ ih =>
    obtain ⟨later, told, network⟩ := ih
    refine ⟨(t.engine.perform now move).2 ++ later, ?_, ?_⟩
    · rw [Session.past_after, told, List.append_assoc]
    · rw [List.append_assoc]
      exact network.perform now move

/-- From any point on the network may turn again. -/
theorem restart (network : NetworkTold base past e) : NetworkTold e.trace [] e := by
  obtain ⟨position, wired, -⟩ := network.wired
  exact ⟨⟨[], rfl⟩, by simp [latestTurn], network.kept, position, wired,
    fun _ turned => absurd rfl turned⟩

end NetworkTold

/-! ## Runs -/

theorem latestTurn_ne_none (later : List Occurrence) (online : Bool) :
    latestTurn (later ++ [.turned online]) ≠ none := by
  rw [latestTurn, List.filterMap_append, ne_eq, List.head?_eq_none_iff]
  exact List.append_ne_nil_of_right_ne_nil _ (by simp [Occurrence.turn?])

section Start

variable {c : Config} {disk : Disk} {listener : Option Listener} {history : List LogLine}
  {revision : String} {now : Instant} {e : Engine}

theorem Engine.announced_of_start
    (started : start c disk listener history revision now = .ready e) :
    ∃ e₁ : Engine, e = e₁.announceStart now := by
  unfold start at started
  split at started
  · cases started
  · simp only at started
    split at started
    · cases started
    · cases started
    · split at started
      · cases started
      next e₁ _ =>
        cases started
        exact ⟨e₁, rfl⟩

theorem View.announced_monitor (v : View) : v.announced.monitor = v.monitor := by
  unfold announced
  split <;> rfl

/-- An engine that was started has said what the network is, as if it had turned just now. -/
theorem NetworkTold.of_start
    (started : Engine.start c disk listener history revision now = .ready e) :
    NetworkTold [] [.turned e.isOnline] e := by
  have kept : e.monitor.changes.recent.length ≤ e.monitor.changes.sent := by
    have beginning (storage : Storage) :
        (View.beginning c.policy storage c.startOnline).monitor.changes.recent.length ≤
          (View.beginning c.policy storage c.startOnline).monitor.changes.sent := Nat.le_refl _
    -- A listener that is there at the start has turned the network once at most.
    obtain ⟨storage, lines, -, view | ⟨reachable, l, position, view⟩⟩ := Engine.view_start started
    · have monitor := congrArg View.monitor view
      rw [View.announced_monitor] at monitor
      exact (show e.monitor = _ from monitor) ▸ beginning storage
    · have monitor := congrArg View.monitor view
      rw [View.announced_monitor, View.attached] at monitor
      rw [show e.monitor = _ from monitor, View.turnedTo]
      split
      · exact beginning storage
      · exact Channel.kept_send (beginning storage) reachable
  obtain ⟨e₁, rfl⟩ := Engine.announced_of_start started
  have online : (e₁.announceStart now).isOnline = e₁.isOnline := by
    have monitor := congrArg View.monitor (e₁.view_announceStart now)
    exact congrArg Monitor.online (monitor.trans e₁.view.announced_monitor)
  have all : (e₁.announceStart now).trace = (e₁.announceStart now).trace ++ [] :=
    (List.append_nil _).symm
  refine ⟨⟨_, all⟩, ?_, kept, 0, .of_start started, fun _ _ => ⟨_, all, ?_⟩⟩
  · rintro _ ⟨⟩
    rfl
  · rw [online]
    exact e₁.announceStart_latestNetwork now

end Start

/-- Whatever is done with an engine from its start on, and however many turns of the network and
reports of the listener fall out of their channels meanwhile: whenever the connectivity task has
nothing to do, the latest state of the network that was published is the one that the monitor has,
and if that is a connection, a pass was asked for after it was published. If the network has turned
since some state of the run, then to what the monitor has now, and all of that has happened since
then, too. -/
theorem published_network_converges {config : Config} {disk : Disk} {listener : Option Listener}
    {history : List LogLine} {revision : String} {start : Instant} {e : Engine}
    (started : Engine.start config disk listener history revision start = .ready e)
    {allowed : Session → Instant → Move → Prop} {clock : Instant} {t : Session}
    (run : Session.Run allowed ⟨e, [], clock⟩ t) (idle : .connectivity ∉ t.engine.tasks) :
    LatestNetwork t.engine.isOnline t.engine.trace ∧
    ∀ s later online, Session.Run allowed ⟨e, [], clock⟩ s → Session.Run allowed s t →
      t.past = later ++ s.past → latestTurn later = some online →
      t.engine.isOnline = online ∧
        ∃ told, t.engine.trace = told ++ s.engine.trace ∧ LatestNetwork online told := by
  have begun := NetworkTold.of_start started
  -- A task that is not ready has read all that there is.
  have reached {position : Nat} (wired : t.engine.view.Wired position) :
      position = t.engine.monitor.changes.sent :=
    Nat.le_antisymm wired.reached (Nat.le_of_not_lt fun behind => idle (wired.ready behind))
  constructor
  · obtain ⟨later, -, network⟩ := begun.of_run run
    obtain ⟨position, wired, latest⟩ := network.wired
    obtain ⟨told, trace, latest⟩ := latest (reached wired) (latestTurn_ne_none _ _)
    rw [List.append_nil] at trace
    exact trace ▸ latest
  · intro s later online before run' told turned
    obtain ⟨_, -, network⟩ := begun.of_run before
    obtain ⟨later', told', network⟩ := network.restart.of_run run'
    obtain rfl : later' = later := List.append_cancel_right (told'.symm.trans told)
    rw [List.append_nil] at network
    have same := network.turned online turned
    obtain ⟨position, wired, latest⟩ := network.wired
    obtain ⟨since, trace, latest⟩ := latest (reached wired) (by simp [turned])
    exact ⟨same, since, trace, same ▸ latest⟩

namespace NetworkTold

/-- An engine that follows a listener. -/
def sampleEngine : Engine :=
  (Engine.start OfflinePeriod.sampleConfig ⟨[]⟩ (some (.starting .online)) [] "" .epoch).engineD
    (.inMemory .default true)

def sampleStart : Session := ⟨sampleEngine, [], .epoch⟩

/-- The network turns more often than the channel of its changes can keep. -/
def sampleDown : Session :=
  sampleStart.through
    ((List.replicate 65 [.setOnline false, .setOnline true]).flatten ++ [.setOnline false])

/-- The network comes back, there are more reports than the channel of the listener can keep, and
only then the tasks get their turns. -/
def sampleBack : Session :=
  sampleDown.through
    (.setOnline true :: List.replicate 17 (.push .offline) ++ .push .online :: .run 1 ::
      List.replicate 68 (.run 0))

/-- What was done since the network was down last. -/
def sampleLater : List Occurrence :=
  sampleBack.past.take (sampleBack.past.length - sampleDown.past.length)

theorem sample_started :
    Engine.start OfflinePeriod.sampleConfig ⟨[]⟩ (some (.starting .online)) [] "" .epoch =
      .ready sampleEngine :=
  Launch.eq_ready (by decide +kernel) _

end NetworkTold

/-- The theorem at a burst of 132 turns and 18 reports after which the network is up. -/
theorem burst_ends_with_connection :
    NetworkTold.sampleBack.engine.tasks = [] ∧
      LatestNetwork true NetworkTold.sampleBack.engine.trace ∧
      ∃ told, NetworkTold.sampleBack.engine.trace = told ++ NetworkTold.sampleDown.engine.trace ∧
        LatestNetwork true told := by
  have before : Session.Run (fun _ _ _ => True) NetworkTold.sampleStart NetworkTold.sampleDown :=
    .through .refl (by decide +kernel)
  have after : Session.Run (fun _ _ _ => True) NetworkTold.sampleDown NetworkTold.sampleBack :=
    .through .refl (by decide +kernel)
  have run : Session.Run (fun _ _ _ => True) NetworkTold.sampleStart NetworkTold.sampleBack :=
    before.through (by decide +kernel)
  have done : NetworkTold.sampleBack.engine.tasks = [] := by decide +kernel
  have online : NetworkTold.sampleBack.engine.isOnline = true := by decide +kernel
  obtain ⟨latest, since⟩ := published_network_converges NetworkTold.sample_started run
    (by rw [done]; exact List.not_mem_nil)
  obtain ⟨-, told, trace, latest'⟩ :=
    since NetworkTold.sampleDown NetworkTold.sampleLater true before after
    (by decide +kernel) (by decide +kernel)
  exact ⟨done, online ▸ latest, told, trace, latest'⟩

end Outbox
