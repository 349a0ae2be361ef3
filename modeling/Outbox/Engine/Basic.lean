import Outbox.Failure
import Outbox.Network
import Outbox.Notifier.Unowned
import Outbox.Store.Moves
import Outbox.Store.Storage

/-!
# The engine

An engine owns a store, knows whether the remote side can be reached, tells listeners about its
status, and makes one pass over its queue at a time. All that it does between two calls of the
remote side is one step of a state: a pass that waits for an answer is part of the state, and so
are the tasks in the background that still have to run. What others can see of a step is kept in
a trace, the latest effect first.
-/
namespace Outbox

open Time

/-- What a call of the remote side comes to. -/
inductive Answer where
  /-- The mutation has taken effect there. -/
  | confirmed
  | failed (failure : Failure)
  /-- The call never ends in an orderly way. -/
  | panicked
  deriving DecidableEq

/-- What can be seen of an engine from outside. -/
inductive Effect where
  | logged (line : LogLine)
  /-- A callback was told a status. -/
  | called (call : Call)
  /-- An event was broadcast. -/
  | emitted (event : Event)
  /-- The remote side was called. -/
  | sent (m : Mutation)
  /-- The remote side answered a call. -/
  | answered (m : Mutation) (answer : Answer)
  /-- A pass in the background was asked for. -/
  | drainRequested

/-- Work in the background. -/
inductive Task where
  /-- A pass over the queue. -/
  | drain
  /-- Publishes the changes of the network. -/
  | connectivity
  /-- Carries the reports of the listener over to the monitor. -/
  | watch
  deriving DecidableEq, Repr

/-- Who is told that the queue got longer. -/
inductive Requester where
  | unbound
  /-- The engine itself, which starts a pass in the background. -/
  | processor
  /-- Someone who counts the requests. -/
  | counter (requests : Nat)
  /-- Someone who is no longer there. -/
  | gone
  deriving DecidableEq, Repr

/-- What became of the mutations that a pass tried. -/
structure Report where
  attempted : Nat
  succeeded : Nat
  retried : Nat
  exhausted : Nat
  deadLettered : Nat
  deriving DecidableEq, Repr

/-- A pass that waits for the answer to its current mutation. -/
structure Pass where
  current : Mutation
  /-- What the pass has still to try, as it was when the pass began. -/
  rest : List Mutation
  report : Report

structure Engine where
  policy : RetryPolicy
  /-- Whether every delivery is logged with its payload. -/
  debug : Bool
  storage : Storage
  notifier : UnownedNotifier
  monitor : Monitor
  requester : Requester
  pass : Option Pass
  /-- The tasks that are ready to run, in this order. -/
  tasks : List Task
  /-- The position of the connectivity task in the changes of the network. -/
  connectivity : Option Nat
  listener : Option Listener
  /-- The position of the watch in the reports of the listener. -/
  watch : Option Nat
  trace : List Effect

namespace Engine

/-- An engine whose parts do not know of each other yet. -/
def assemble (policy : RetryPolicy) (debug : Bool) (storage : Storage)
    (notifier : UnownedNotifier) (online : Bool) : Engine where
  policy := policy
  debug := debug
  storage := storage
  notifier := notifier
  monitor := .starting online
  requester := .unbound
  pass := none
  tasks := []
  connectivity := none
  listener := none
  watch := none
  trace := []

/-- Whether a pass is in progress. -/
def isProcessing (e : Engine) : Bool := e.pass.isSome

/-- The mutation whose delivery waits for an answer. -/
def inFlight (e : Engine) : Option Mutation := e.pass.map (·.current)

def isOnline (e : Engine) : Bool := e.monitor.online

/-! ## Effects -/

def record (e : Engine) (effect : Effect) : Engine := { e with trace := effect :: e.trace }

def log (e : Engine) (line : LogLine) : Engine := e.record (.logged line)

def logAll (e : Engine) (lines : List LogLine) : Engine := lines.foldl log e

/-- The effects since the trace had a length, in the order in which they came about. -/
def since (e : Engine) (length : Nat) : List Effect :=
  (e.trace.take (e.trace.length - length)).reverse

/-- Broadcasts an event. -/
def emit (e : Engine) (event : Event) : Engine :=
  let e : Engine := { e with notifier := e.notifier.emit event }
  e.record (.emitted event)

/-- Publishes a status: callbacks first, then the event. -/
def publish (e : Engine) (status : Status) (now : Instant) : Engine :=
  let p := e.notifier.publish status now
  let e := p.calls.foldl (fun e call => e.record (.called call)) { e with notifier := p.notifier }
  (e.logAll p.log).record (.emitted (.statusChanged status now))

/-- Makes a task ready to run, unless it is. -/
def wake (e : Engine) (task : Task) : Engine :=
  if e.tasks.contains task then e else { e with tasks := e.tasks ++ [task] }

/-- Asks for a pass in the background. -/
def requestDrain (e : Engine) : Engine :=
  let e : Engine := { e with tasks := e.tasks ++ [.drain] }
  e.record .drainRequested

/-- Tells the requester that there is something to deliver. -/
def tellRequester (e : Engine) : Engine :=
  match e.requester with
  | .unbound | .gone => e
  | .processor => e.requestDrain
  | .counter requests =>
    let e : Engine := { e with requester := .counter (requests + 1) }
    e.record .drainRequested

/-- Binds a requester; the first one stays. -/
def bind (e : Engine) (requester : Requester) : Engine × Except Error Unit :=
  match e.requester with
  | .unbound => ({ e with requester := requester }, .ok ())
  | _ => (e, .error (.runtime "drain requester 已绑定"))

/-! ## The store -/

/-- Runs statements on the database, which is opened first unless it is open. -/
def access {α : Type} (e : Engine) (now : Instant)
    (f : Database → Database × Except Error α) : Engine × Except Error α :=
  let (storage, lines, opened) := e.storage.ensureOpen now
  let e := logAll { e with storage := storage } lines
  match opened with
  | .error fault => (e, .error fault)
  | .ok () =>
    -- A failed operation may have changed the database as well, if it is no transaction.
    let (db, result) := f ((storage.database?).getD .empty)
    ({ e with storage := storage.setDatabase db }, result)

/-- Looks something up in the database. -/
def query {α : Type} (e : Engine) (now : Instant) (f : Database → Except Error α) :
    Engine × Except Error α :=
  e.access now fun db => (db, f db)

/-- Runs one statement that changes the database. -/
def change {α : Type} (e : Engine) (now : Instant)
    (f : Database → Except Error (Database × α)) : Engine × Except Error α :=
  e.access now (Database.atomically f)

/-! ## The network -/

/-- Sets whether the remote side can be reached, and says whether that is a change. -/
def setOnline (e : Engine) (online : Bool) : Engine × Bool :=
  let (monitor, changed, lines) := e.monitor.setOnline online
  let e := logAll { e with monitor := monitor } lines
  -- A task that was stopped receives nothing and is not woken.
  (if changed && e.connectivity.isSome then e.wake .connectivity else e, changed)

/-- Lets the listener report a state of the network. -/
def push (e : Engine) (status : NetworkStatus) : Engine :=
  let e : Engine := { e with listener := e.listener.map fun l => l.push status }
  if e.watch.isSome then e.wake .watch else e

/-! ## Status callbacks -/

/-- Registers a callback and returns its number. -/
def subscribe (e : Engine) (callback : UnownedCallback) : Engine × Nat :=
  let (notifier, id) := e.notifier.subscribe callback
  ({ e with notifier := notifier }, id)

/-- Drops a registration. -/
def unsubscribe (e : Engine) (id : Nat) : Engine :=
  if e.notifier.isHeld id then
    log { e with notifier := e.notifier.unsubscribe id } (Notifier.unsubscribed id)
  else e

end Engine

end Outbox
