import Outbox.Engine.Tasks
import Outbox.Version

/-!
# Starting and stopping an engine

An engine starts with a checked configuration and an open store. It listens to changes of the
network before the platform is asked for its state, so none is missed, and what an earlier session
left in the queue is tried at once when the remote side can be reached.
-/
namespace Outbox

open Time

/-- What comes of starting an engine. -/
inductive Launch where
  | ready (e : Engine)
  | refused (fault : Error)
  /-- There is no room for that many events. -/
  | panicked

namespace Engine

/-- Lets the engine follow a listener, if there is one and it can be started. -/
def attach (e : Engine) : Option Listener → Except Error Engine
  | none => .ok e
  | some listener => do
    let (e, _) := e.setOnline listener.status.isReachable
    let (listener, position) ← listener.start
    pure (wake { e with listener := some listener, watch := some position } .watch)

/-- Publishes the state of the network and begins to work. -/
def announceStart (e : Engine) (now : Instant) : Engine :=
  let online := e.isOnline
  let e := e.publish (if online then .online else .offline) now
  let e := if online then e.requestDrain else e
  e.log (.info ("✅ 离线同步引擎初始化完成 (online=" ++ toString online ++ ")"))

/-- Starts an engine. `history` holds the log lines from before, and `revision` names the build. -/
def start (c : Config) (disk : Disk) (listener : Option Listener) (history : List LogLine)
    (revision : String) (now : Instant) : Launch :=
  match c.validate with
  | .error fault => .refused fault
  | .ok () =>
    let greeting := .info ("🚀 初始化离线同步引擎 " ++ Version.line revision)
    let (storage, lines, opened) := (Storage.closed disk (.ofConfig c)).ensureOpen now
    -- The store is opened before there is a channel for events, so its trouble comes first.
    match opened, UnownedNotifier.ofCapacity? c.eventBuffer with
    | .error fault, _ => .refused fault
    | .ok (), none => .panicked
    | .ok (), some notifier =>
      let e := assemble c.policy c.debug storage notifier c.startOnline
      let e := e.logAll (history ++ greeting :: lines)
      -- The task receives changes before a listener can make any, so it misses none.
      let (changes, position) := e.monitor.changes.subscribe
      let e := wake
        { e with
          requester := .processor
          monitor := { e.monitor with changes := changes }
          connectivity := some position } .connectivity
      match e.attach listener with
      | .error fault => .refused fault
      | .ok e => .ready (e.announceStart now)

/-- Stops the tasks that follow the network. Passes that were asked for are still made. -/
def shutdown (e : Engine) : Engine :=
  let stopped := e.connectivity.toList.length + e.watch.toList.length
  let e : Engine :=
    { e with
      connectivity := none
      watch := none
      tasks := e.tasks.filter (· == .drain)
      listener := e.listener.map fun l => l.stop }
  if stopped = 0 then e
  else e.log (.info ("🛑 离线同步引擎已停止 (" ++ toString stopped ++ " 个后台任务)"))

/-- The engine in diagnostics, after its store. -/
def describeProcessor (e : Engine) : String :=
  "QueueProcessor \x7b policy: RetryPolicy \x7b max_retries: " ++ toString e.policy.maxRetries
    ++ " \x7d, processing: " ++ toString e.isProcessing ++ ", debug_logging: "
    ++ toString e.debug ++ " \x7d"

end Engine

end Outbox
