import Outbox.Channel
import Outbox.Error
import Outbox.Log

/-!
# The network

The monitor knows whether the remote side can be reached and announces each change once. A
platform listener reports the state of the network; a watch carries its reports over to the
monitor, in order, and skips those that it was too slow for.
-/
namespace Outbox

/-- Whether the remote side can be reached, and the announcements of changes. -/
structure Monitor where
  online : Bool
  changes : Channel Bool

namespace Monitor

/-- A monitor that keeps the latest hundred changes, rounded up. -/
def starting (online : Bool) : Monitor := ⟨online, .ofCapacity 100⟩

def label (online : Bool) : String := if online then "online" else "offline"

/-- Sets the state; a state that is set already is no change. The swap of the state and the message
about it are one step: tasks are cooperative by specification, and nothing is awaited between
the two. -/
def setOnline (m : Monitor) (online : Bool) : Monitor × Bool × List LogLine :=
  if m.online = online then (m, false, [])
  else
    ({ m with online := online, changes := m.changes.send online }, true,
      [.info ("🌐 网络状态变化: " ++ label m.online ++ " -> " ++ label online)])

end Monitor

/-- A listener that is told the state of the network by hand. -/
structure Listener where
  status : NetworkStatus
  reports : Channel NetworkStatus
  monitoring : Bool
  /-- Why the platform does not let itself be watched, if it does not. -/
  refusal : Option String

namespace Listener

/-- A listener that keeps the latest sixteen reports. -/
def starting (status : NetworkStatus) : Listener := ⟨status, .ofCapacity 16, false, none⟩

/-- A listener that reports a connection and cannot be watched. -/
def refusing (reason : String) : Listener := { starting .online with refusal := some reason }

/-- Reports a state. -/
def push (l : Listener) (status : NetworkStatus) : Listener :=
  { l with status := status, reports := l.reports.send status }

/-- Starts to listen; the result is the position of the new receiver. -/
def start (l : Listener) : Except Error (Listener × Nat) :=
  match l.refusal with
  | some reason => .error (.runtime reason)
  | none =>
    let (reports, position) := l.reports.subscribe
    .ok ({ l with reports := reports, monitoring := true }, position)

def stop (l : Listener) : Listener := { l with monitoring := false }

end Listener

/-- Carries over what a watch received. -/
def Monitor.follow (m : Monitor) (reports : List (Received NetworkStatus)) : Monitor :=
  reports.foldl (fun m report => match report with
    | .message status => (m.setOnline status.isReachable).1
    | .lagged _ => m) m

/-- A monitor with a listener and its watches, which are positions in the listener's reports. -/
structure Network where
  monitor : Monitor
  listener : Listener
  watches : List Nat

namespace Network

def starting (online : Bool) (status : NetworkStatus) : Network :=
  ⟨.starting online, .starting status, []⟩

/-- Takes over the state of the listener and watches it from now on. -/
def start (n : Network) : Network × Except Error Unit :=
  let (monitor, _, _) := n.monitor.setOnline n.listener.status.isReachable
  match n.listener.start with
  | .error fault => ({ n with monitor := monitor }, .error fault)
  | .ok (listener, position) => (⟨monitor, listener, n.watches ++ [position]⟩, .ok ())

def push (n : Network) (status : NetworkStatus) : Network :=
  { n with listener := n.listener.push status }

/-- Every watch in turn carries over all that it received. -/
def settle (n : Network) : Network :=
  let monitor := n.watches.foldl (fun m position =>
    m.follow (n.listener.reports.receive position)) n.monitor
  { n with monitor := monitor, watches := n.watches.map fun _ => n.listener.reports.sent }

end Network

end Outbox
