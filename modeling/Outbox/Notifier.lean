import Outbox.Channel
import Outbox.Event
import Outbox.Log

/-!
# Status notifications

A published status becomes the current one, is given to every callback that was registered at that
moment, in the order of registration, and is then broadcast as an event. What a callback does to
the registrations counts for the next status only, and a callback that panics is passed over.

Whoever registers a callback gets a handle, and the registration ends when the handle is dropped.
Callbacks may own handles too, and a callback that is destroyed drops what it owns. Registrations
end under a lock. A callback whose registration ends is destroyed under it, and if it owns a handle,
that one waits for the same lock forever. Only a publication puts this off: what it runs, or has
still to run, is destroyed after its turn, when the lock is free. Whatever may wait forever gives
nothing then.
-/
namespace Outbox

open Time

/-- One thing that a callback does after it was told the status. -/
inductive Reaction where
  /-- Drops a handle that it can get at, maybe its own. -/
  | unsubscribe (serial : Nat)
  /-- Registers another callback, which has reactions of its own and takes over some handles. The
  new handle is kept by the callback that registers or outside. -/
  | subscribe (label : String) (reactions : List Reaction) (panics : Bool) (owns : List Nat)
      (keeps : Bool)
  | readCurrent

/-- A callback does one thing after the other, and then it returns or panics. -/
structure Callback where
  label : String
  reactions : List Reaction
  panics : Bool

/-- What the callbacks were seen to do. -/
inductive Call where
  | told (label : String) (status : Status)
  | sawCurrent (label : String) (current : Option Status)
  deriving DecidableEq

/-- The handle of a registration. -/
structure Handle where
  serial : Nat
  /-- The registration whose callback owns the handle; other handles are kept outside. -/
  owner : Option Nat
  deriving DecidableEq

/-- Everybody can get at the handles that are kept outside, and a callback at its own. -/
def Handle.isAt (h : Handle) (holder : Option Nat) : Bool := h.owner.isNone || h.owner == holder

/-- Registrations are known by serial numbers. -/
structure Notifier where
  subscribers : List (Nat × Callback)
  /-- The handles that were not dropped. -/
  handles : List Handle
  nextSerial : Nat
  current : Option Status
  events : Channel Event

namespace Notifier

/-- A notifier without callbacks. -/
def ofEvents (events : Channel Event) : Notifier := ⟨[], [], 1, none, events⟩

/-- A notifier without callbacks, if its channel takes the size of the buffer for events. This is
the check that the channel makes itself; a buffer that it accepts may still not fit the memory. -/
def ofCapacity? (capacity : Nat) : Option Notifier :=
  if capacity ≤ Channel.largestCapacity then some (.ofEvents (.ofCapacity capacity)) else none

/-- The usual size of the event buffer. -/
def default : Notifier := .ofEvents (.ofCapacity 256)

/-- The number that a registration goes by. Numbers have 64 bits, so they start again one day. -/
def idOf (serial : Nat) : UInt64 := UInt64.ofNat serial

/-- Registers a callback. Who does it, a callback or somebody outside, hands some of its handles
over to the new callback, and keeps the new handle or leaves it outside. -/
def subscribe (n : Notifier) (holder : Option Nat) (callback : Callback) (owns : List Nat)
    (keeps : Bool) : Notifier × Nat :=
  let handles := n.handles.map fun h =>
    if owns.contains h.serial && h.isAt holder then { h with owner := some n.nextSerial } else h
  ({ n with
    subscribers := n.subscribers ++ [(n.nextSerial, callback)]
    handles := handles ++ [⟨n.nextSerial, if keeps then holder else none⟩]
    nextSerial := n.nextSerial + 1 }, n.nextSerial)

def isSubscribed (n : Notifier) (serial : Nat) : Bool := n.subscribers.any (·.1 == serial)

/-- Whether there is a handle of a registration that somebody can get at. -/
def isAtHand (n : Notifier) (holder : Option Nat) (serial : Nat) : Bool :=
  n.handles.any fun h => h.serial == serial && h.isAt holder

/-- Without a handle, and without all registrations that go by its number. -/
def without (n : Notifier) (serial : Nat) : Notifier :=
  { n with
    subscribers := n.subscribers.filter fun entry => idOf entry.1 != idOf serial
    handles := n.handles.filter (·.serial != serial) }

/-- Drops a handle while some registrations are in use, that is, while a publication needs their
callbacks. -/
def drop? (n : Notifier) (inUse : List Nat) (serial : Nat) : Option Notifier :=
  let ended := n.subscribers.filter fun entry => idOf entry.1 == idOf serial
  -- Who is destroyed under the lock must not have to wait for it.
  if ended.any fun entry => !inUse.contains entry.1 &&
      (n.without serial).handles.any (·.owner == some entry.1) then none
  else some (n.without serial)

/-- Drops a handle that is kept outside. -/
def unsubscribe? (n : Notifier) (serial : Nat) : Option Notifier :=
  if n.isAtHand none serial then n.drop? [] serial else some n

/-- The log line of a dropped handle. -/
def unsubscribed (serial : Nat) : LogLine :=
  .info ("注销状态回调 #" ++ toString (idOf serial).toNat)

/-- Broadcasts an event. -/
def emit (n : Notifier) (e : Event) : Notifier := { n with events := n.events.send e }

/-- A notifier in the middle of a publication, with what its callbacks did so far. -/
structure Publication where
  notifier : Notifier
  calls : List Call
  log : List LogLine

/-- A publication that has told nobody yet. -/
def begun (n : Notifier) (status : Status) : Publication :=
  ⟨{ n with current := some status }, [], []⟩

/-- Drops a handle in the middle of a publication. -/
def Publication.drop? (p : Publication) (inUse : List Nat) (serial : Nat) : Option Publication :=
  (p.notifier.drop? inUse serial).map fun n =>
    { p with notifier := n, log := p.log ++ [unsubscribed serial] }

/-- One reaction of the callback of a registration. -/
def react? (serial : Nat) (label : String) (inUse : List Nat) (p : Publication) :
    Reaction → Option Publication
  | .unsubscribe target =>
    if p.notifier.isAtHand (some serial) target then p.drop? inUse target else some p
  | .subscribe label reactions panics owns keeps =>
    some { p with
      notifier := (p.notifier.subscribe (some serial) ⟨label, reactions, panics⟩ owns keeps).1 }
  | .readCurrent => some { p with calls := p.calls ++ [.sawCurrent label p.notifier.current] }

/-- The log line of a callback that panicked. -/
def panicked (serial : Nat) (status : Status) : LogLine :=
  .error ("❌ 状态回调 #" ++ toString (idOf serial).toNat ++ " panic，已跳过 (status="
    ++ status.name ++ ")")

/-- A callback has had its turn. If its registration has ended, it is destroyed now, and drops the
handles that it owns. -/
def release? (inUse : List Nat) (p : Publication) (serial : Nat) : Option Publication :=
  if p.notifier.isSubscribed serial then some p
  else
    (p.notifier.handles.filter (·.owner == some serial)).foldlM
      (fun p h => p.drop? inUse h.serial) p

/-- Runs one callback, while others have still to be run. -/
def tell? (status : Status) (later : List Nat) (p : Publication) (entry : Nat × Callback) :
    Option Publication := do
  let (serial, callback) := entry
  let p := { p with calls := p.calls ++ [.told callback.label status] }
  let p ← callback.reactions.foldlM (react? serial callback.label (serial :: later)) p
  let p := if callback.panics then { p with log := p.log ++ [panicked serial status] } else p
  release? later p serial

/-- Runs some callbacks, while others have still to be run. -/
def tellAll? (status : Status) (later : List Nat) :
    List (Nat × Callback) → Publication → Option Publication
  | [], p => some p
  | entry :: rest, p =>
    (tell? status (rest.map (·.1) ++ later) p entry).bind (tellAll? status later rest)

/-- Publishes a status. -/
def publish? (n : Notifier) (status : Status) (now : Instant) : Option Publication :=
  (tellAll? status [] n.subscribers (n.begun status)).map fun p =>
    { p with notifier := p.notifier.emit (.statusChanged status now) }

/-- The notifier in diagnostics. -/
def describe (n : Notifier) : String :=
  let current := match n.current with
    | some s => "Some(" ++ s.title ++ ")"
    | none => "None"
  "StatusNotifier \x7b subscribers: " ++ toString n.subscribers.length ++ ", current: " ++ current
    ++ " \x7d"

/-- A registration in diagnostics. -/
def describeSubscription (serial : Nat) : String :=
  "Subscription \x7b id: " ++ toString (idOf serial).toNat ++ " \x7d"

end Notifier

end Outbox
