import Outbox.Notifier

/-!
# Notifiers without owned handles

Where no callback owns a handle, nothing waits for a lock forever: handles can be dropped at any
time, every publication comes to its end, and after all of that still no callback owns one. So these
notifiers make a type of their own whose operations always give a result.
-/
namespace Outbox

open Time

/-- All that a callback registers in a reaction owns nothing, and the handle is left outside. -/
inductive Reaction.Unowned : Reaction → Prop
  | unsubscribe (serial : Nat) : Unowned (.unsubscribe serial)
  | subscribe (label : String) {reactions : List Reaction} (panics : Bool)
      (each : ∀ r ∈ reactions, Unowned r) : Unowned (.subscribe label reactions panics [] false)
  | readCurrent : Unowned .readCurrent

/-- A callback that never comes to own a handle, nor does anyone whom it registers. -/
def Callback.Unowned (c : Callback) : Prop := ∀ r ∈ c.reactions, r.Unowned

namespace Notifier

/-- A run comes to its end if each of its steps gives a result and keeps what the next one needs. -/
theorem exists_foldlM_eq_some {α β : Type} {f : β → α → Option β} {fits : β → Prop} {xs : List α}
    (step : ∀ b, fits b → ∀ x ∈ xs, ∃ b', f b x = some b' ∧ fits b') {b : β} (start : fits b) :
    ∃ b', xs.foldlM f b = some b' ∧ fits b' := by
  induction xs generalizing b with
  | nil => exact ⟨b, rfl, start⟩
  | cons x rest ih =>
    obtain ⟨mid, first, along⟩ := step b start x List.mem_cons_self
    rw [List.foldlM_cons, first]
    exact ih (fun b fits x member => step b fits x (List.mem_cons_of_mem _ member)) along

/-- No callback owns a handle, and none is going to. -/
structure Unowned (n : Notifier) : Prop where
  handles : ∀ h ∈ n.handles, h.owner = none
  callbacks : ∀ entry ∈ n.subscribers, entry.2.Unowned

namespace Unowned

variable {n : Notifier} {p : Publication}

theorem ofEvents (events : Channel Event) : (Notifier.ofEvents events).Unowned := ⟨nofun, nofun⟩

theorem withEvents (unowned : n.Unowned) (events : Channel Event) :
    Unowned { n with events := events } := ⟨unowned.handles, unowned.callbacks⟩

theorem subscribe (unowned : n.Unowned) (holder : Option Nat) {callback : Callback}
    (free : callback.Unowned) : (n.subscribe holder callback [] false).1.Unowned where
  handles h member := by
    rcases List.mem_append.mp member with old | new
    · obtain ⟨h, there, rfl⟩ := List.mem_map.mp old
      exact unowned.handles h there
    · rw [List.mem_singleton.mp new]
      rfl
  callbacks entry member := by
    rcases List.mem_append.mp member with old | new
    · exact unowned.callbacks entry old
    · obtain rfl := List.mem_singleton.mp new
      exact free

/-- Nobody who is destroyed has a handle to drop. -/
theorem drop? (unowned : n.Unowned) (inUse : List Nat) (serial : Nat) :
    ∃ n', n.drop? inUse serial = some n' ∧ n'.Unowned := by
  -- Whoever is destroyed by this owns no handle, so nothing waits for the lock.
  have idle (entry : Nat × Callback) :
      (!inUse.contains entry.1 &&
        (n.handles.filter (·.serial != serial)).any (·.owner == some entry.1)) = false := by
    rw [Bool.and_eq_false_iff]
    refine .inr (List.any_eq_false.mpr fun h member => ?_)
    rw [unowned.handles h (List.mem_filter.mp member).1]
    exact Bool.false_ne_true
  refine ⟨_, if_neg ?_, ?_, ?_⟩
  · rw [Bool.not_eq_true]
    exact List.any_eq_false.mpr fun entry _ => Bool.eq_false_iff.mp (idle entry)
  · exact fun h member => unowned.handles h (List.mem_filter.mp member).1
  · exact fun entry member => unowned.callbacks entry (List.mem_filter.mp member).1

theorem unsubscribe? (unowned : n.Unowned) (serial : Nat) :
    ∃ n', n.unsubscribe? serial = some n' ∧ n'.Unowned := by
  unfold Notifier.unsubscribe?
  split
  · exact unowned.drop? [] serial
  · exact ⟨n, rfl, unowned⟩

theorem react? (unowned : p.notifier.Unowned) (inUse : List Nat) (serial : Nat) (label : String)
    {r : Reaction} (free : r.Unowned) :
    ∃ p', Notifier.react? serial label inUse p r = some p' ∧ p'.notifier.Unowned := by
  cases free with
  | unsubscribe target =>
    obtain ⟨n', dropped, unowned'⟩ := unowned.drop? inUse target
    simp only [Notifier.react?, Publication.drop?, dropped, Option.map_some]
    split
    · exact ⟨_, rfl, unowned'⟩
    · exact ⟨p, rfl, unowned⟩
  | subscribe label panics each => exact ⟨_, rfl, unowned.subscribe (some serial) each⟩
  | readCurrent => exact ⟨_, rfl, unowned⟩

theorem reactAll? (unowned : p.notifier.Unowned) (inUse : List Nat) (serial : Nat) (label : String)
    {reactions : List Reaction} (free : ∀ r ∈ reactions, r.Unowned) :
    ∃ p', reactions.foldlM (Notifier.react? serial label inUse) p = some p' ∧
      p'.notifier.Unowned :=
  exists_foldlM_eq_some (fun (p : Publication) (unowned : p.notifier.Unowned) r member =>
    unowned.react? inUse serial label (free r member)) unowned

theorem release? (unowned : p.notifier.Unowned) (inUse : List Nat) (serial : Nat) :
    Notifier.release? inUse p serial = some p := by
  have nothing : p.notifier.handles.filter (·.owner == some serial) = [] := by
    refine List.filter_eq_nil_iff.mpr fun h member => ?_
    rw [unowned.handles h member]
    exact Bool.false_ne_true
  rw [Notifier.release?, nothing]
  exact ite_self _

theorem tell? (unowned : p.notifier.Unowned) (status : Status) (later : List Nat)
    {entry : Nat × Callback} (free : entry.2.Unowned) :
    ∃ p', Notifier.tell? status later p entry = some p' ∧ p'.notifier.Unowned := by
  obtain ⟨serial, callback⟩ := entry
  let told : Publication := { p with calls := p.calls ++ [.told callback.label status] }
  obtain ⟨p', run, unowned'⟩ :=
    reactAll? (p := told) unowned (serial :: later) serial callback.label free
  simp only [Notifier.tell?, told] at run ⊢
  rw [run]
  cases callback.panics with
  | false => exact ⟨p', release? unowned' later serial, unowned'⟩
  | true =>
    let blamed : Publication := { p' with log := p'.log ++ [panicked serial status] }
    exact ⟨blamed, release? (p := blamed) unowned' later serial, unowned'⟩

theorem tellAll? (unowned : p.notifier.Unowned) (status : Status) (later : List Nat)
    {entries : List (Nat × Callback)} (free : ∀ entry ∈ entries, entry.2.Unowned) :
    ∃ p', Notifier.tellAll? status later entries p = some p' ∧ p'.notifier.Unowned := by
  induction entries generalizing p with
  | nil => exact ⟨p, rfl, unowned⟩
  | cons entry rest ih =>
    obtain ⟨first, told, unowned⟩ :=
      unowned.tell? status (rest.map (·.1) ++ later) (free entry List.mem_cons_self)
    obtain ⟨p', run, unowned'⟩ :=
      ih unowned fun entry member => free entry (List.mem_cons_of_mem _ member)
    exact ⟨p', by rw [Notifier.tellAll?, told]; exact run, unowned'⟩

/-- Every publication comes to its end. -/
theorem publish? (unowned : n.Unowned) (status : Status) (now : Instant) :
    ∃ p, n.publish? status now = some p ∧ p.notifier.Unowned := by
  have begins : (n.begun status).notifier.Unowned := ⟨unowned.handles, unowned.callbacks⟩
  obtain ⟨p, run, unowned'⟩ := begins.tellAll? status [] unowned.callbacks
  exact ⟨{ p with notifier := p.notifier.emit (.statusChanged status now) },
    by rw [Notifier.publish?, run]; rfl, unowned'.withEvents _⟩

end Unowned

end Notifier

/-- A callback that never comes to own a handle. -/
structure UnownedCallback where
  callback : Callback
  unowned : callback.Unowned

/-- A callback that is told and does nothing else. -/
def UnownedCallback.listening (label : String) (panics : Bool) : UnownedCallback :=
  ⟨⟨label, [], panics⟩, nofun⟩

/-- A notifier whose callbacks own no handles. -/
structure UnownedNotifier where
  notifier : Notifier
  unowned : notifier.Unowned

namespace UnownedNotifier

/-- A notifier without callbacks, if its channel takes the size of the buffer for events. -/
def ofCapacity? (capacity : Nat) : Option UnownedNotifier :=
  (Notifier.ofCapacity? capacity).map fun n => ⟨.ofEvents n.events, .ofEvents n.events⟩

theorem ofCapacity?_eq_none {capacity : Nat} :
    ofCapacity? capacity = none ↔ Notifier.ofCapacity? capacity = none := Option.map_eq_none_iff

/-- The usual size of the event buffer. -/
def default : UnownedNotifier := ⟨.default, .ofEvents _⟩

def current (n : UnownedNotifier) : Option Status := n.notifier.current

def events (n : UnownedNotifier) : Channel Event := n.notifier.events

def withEvents (n : UnownedNotifier) (events : Channel Event) : UnownedNotifier :=
  ⟨{ n.notifier with events := events }, n.unowned.withEvents events⟩

/-- Broadcasts an event. -/
def emit (n : UnownedNotifier) (e : Event) : UnownedNotifier :=
  ⟨n.notifier.emit e, n.unowned.withEvents _⟩

/-- Registers a callback from outside. -/
def subscribe (n : UnownedNotifier) (c : UnownedCallback) : UnownedNotifier × Nat :=
  (⟨(n.notifier.subscribe none c.callback [] false).1, n.unowned.subscribe none c.unowned⟩,
    n.notifier.nextSerial)

/-- Whether a registration has a handle. -/
def isHeld (n : UnownedNotifier) (serial : Nat) : Bool := n.notifier.isAtHand none serial

/-- Drops a handle. -/
def unsubscribe (n : UnownedNotifier) (serial : Nat) : UnownedNotifier :=
  let dropped := n.unowned.unsubscribe? serial
  ⟨(n.notifier.unsubscribe? serial).get (Option.isSome_iff_exists.mpr
    (dropped.imp fun _ both => both.1)), by
    obtain ⟨n', run, unowned⟩ := dropped
    simpa only [run, Option.get_some] using unowned⟩

/-- A status that was published to callbacks that own no handles. -/
structure Publication where
  notifier : UnownedNotifier
  calls : List Call
  log : List LogLine

/-- Publishes a status. -/
def publish (n : UnownedNotifier) (status : Status) (now : Instant) : Publication :=
  let published := n.unowned.publish? status now
  let p := (n.notifier.publish? status now).get (Option.isSome_iff_exists.mpr
    (published.imp fun _ both => both.1))
  have unowned : p.notifier.Unowned := by
    obtain ⟨p', run, unowned⟩ := published
    simpa only [p, run, Option.get_some] using unowned
  ⟨⟨p.notifier, unowned⟩, p.calls, p.log⟩

end UnownedNotifier

end Outbox
