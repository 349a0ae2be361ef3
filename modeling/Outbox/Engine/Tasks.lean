import Outbox.Engine.Pass

/-!
# The background of an engine

The connectivity task publishes every change of the network and asks for a pass when the remote
side can be reached again. The watch carries the reports of the platform over to the monitor. Both
take all that waits for them when they run, as if they took one message after the other, and both go
on after a gap.
-/
namespace Outbox

open Time

namespace Engine

/-- Publishes one change of the network. -/
def announce (now : Instant) (e : Engine) : Received Bool → Engine
  | .message true => (e.publish .online now).requestDrain
  | .message false => e.publish .offline now
  | .lagged missed => e.log (.warn ("⚠️ 连通性事件积压，跳过 " ++ toString missed ++ " 条"))

/-- Runs the connectivity task. -/
def runConnectivity (e : Engine) (now : Instant) : Engine :=
  match e.connectivity with
  | none => e
  | some position =>
    let waiting := e.monitor.changes.receive position
    waiting.foldl (announce now) { e with connectivity := some e.monitor.changes.sent }

/-- Carries over one report of the listener. -/
def carryOver (e : Engine) : Received NetworkStatus → Engine
  | .message status => (e.setOnline status.isReachable).1
  | .lagged missed => e.log (.warn ("⚠️ 网络事件积压，跳过 " ++ toString missed ++ " 条"))

/-- Runs the watch. -/
def runWatch (e : Engine) : Engine :=
  match e.watch, e.listener with
  | some position, some listener =>
    let waiting := listener.reports.receive position
    waiting.foldl carryOver { e with watch := some listener.reports.sent }
  | _, _ => e

/-- The log line of a pass that was asked for where nothing runs in the background. -/
def noBackground : LogLine := .warn "⚠️ 当前不在 tokio 运行时中，无法触发队列处理"

/-- The first task that is ready, and the engine without it. -/
def nextTask? (e : Engine) : Option (Task × Engine) :=
  match e.tasks with
  | [] => none
  | t :: rest => some (t, { e with tasks := rest })

/-- How many tasks can become ready without anyone from outside: those that are, the connectivity
task once more for the reports that wait, and a pass for every change that waits or may follow. -/
def taskBound (e : Engine) : Nat :=
  e.tasks.length + 1 + e.monitor.changes.recent.length
    + (e.listener.map fun l => l.reports.recent.length).getD 0

/-- How many calls the pass in progress will make, the current one included. -/
def callsLeft (e : Engine) : Nat := (e.pass.map fun p => p.rest.length + 1).getD 0

end Engine

end Outbox
