import Outbox.Engine.Tasks
import Outbox.Proofs.Channels
import Outbox.Proofs.View

/-!
# The network and the background

What the turns of the network and the tasks in the background do to the view of an engine. They
touch neither the store nor the pass. A task that takes all that waits for it does what it would do
one message at a time.
-/
namespace Outbox

open Time

namespace View

/-- The network takes a state: a change is announced, and wakes the connectivity task. -/
def turnedTo (v : View) (online : Bool) : View :=
  if v.monitor.online = online then v
  else
    { v with
      monitor := ⟨online, v.monitor.changes.send online⟩
      tasks := if v.connectivity.isSome then withTask .connectivity v.tasks else v.tasks }

/-- What one received change of the network asks for. -/
def heard (v : View) : Received Bool → View
  | .message true => { v with tasks := v.tasks ++ [.drain] }
  | .message false | .lagged _ => v

/-- What one received report of the platform amounts to. -/
def carried (v : View) : Received NetworkStatus → View
  | .message status => v.turnedTo status.isReachable
  | .lagged _ => v

theorem turnedTo_eq (v : View) (online : Bool) :
    v.turnedTo online =
      { v with monitor := (v.turnedTo online).monitor, tasks := (v.turnedTo online).tasks } := by
  unfold turnedTo
  split <;> rfl

/-- Whatever changes are received, nothing but passes is asked for. -/
theorem heard_eq (v : View) (changes : List (Received Bool)) :
    changes.foldl heard v = { v with tasks := (changes.foldl heard v).tasks } := by
  induction changes generalizing v with
  | nil => rfl
  | cons change changes ih =>
    refine (ih _).trans ?_
    rcases change with (_ | _) | _ <;> rfl

/-- Whatever reports are carried over, the store and the pass stay. -/
theorem carried_eq (v : View) (reports : List (Received NetworkStatus)) :
    reports.foldl carried v =
      { v with
        monitor := (reports.foldl carried v).monitor
        tasks := (reports.foldl carried v).tasks } := by
  induction reports generalizing v with
  | nil => rfl
  | cons report reports ih =>
    refine (ih _).trans ?_
    cases report with
    | message status =>
      rw [List.foldl_cons, carried, turnedTo_eq]
    | lagged _ => rfl

end View

namespace Engine

theorem view_setOnline (e : Engine) (online : Bool) :
    (e.setOnline online).1.view = e.view.turnedTo online := by
  -- A report of the state that is known already is not announced.
  by_cases same : e.monitor.online = online
  · have kept : e.view.monitor.online = online := same
    simp only [setOnline, Monitor.setOnline, same, if_true, View.turnedTo, kept, logAll,
      List.foldl_nil, Bool.false_and, Bool.false_eq_true, if_false]
  · have turned : ¬ e.view.monitor.online = online := same
    simp only [setOnline, Monitor.setOnline, same, if_false, View.turnedTo, turned,
      Bool.true_and, logAll, List.foldl_cons, List.foldl_nil]
    change Engine.view (if e.connectivity.isSome then _ else _) =
      { e.view with
        monitor := ⟨online, e.monitor.changes.send online⟩
        tasks := if e.connectivity.isSome then withTask .connectivity e.tasks else e.tasks }
    split
    · rw [view_wake, view_log]
      rfl
    · rw [view_log]
      rfl

theorem setOnline_changed (e : Engine) (online : Bool) :
    (e.setOnline online).2 = !decide (e.view.monitor.online = online) := by
  by_cases same : e.monitor.online = online
  · have kept : e.view.monitor.online = online := same
    simp only [setOnline, Monitor.setOnline, same, if_true, kept]
    rfl
  · have turned : ¬ e.view.monitor.online = online := same
    simp only [setOnline, Monitor.setOnline, same, if_false, turned]
    rfl

theorem view_push (e : Engine) (status : NetworkStatus) :
    (e.push status).view =
      { e.view with
        listener := e.view.listener.map fun l => l.push status
        tasks := if e.view.watch.isSome then withTask .watch e.view.tasks else e.view.tasks } := by
  unfold push
  change Engine.view (if e.watch.isSome then _ else _) =
    { e.view with
      listener := e.listener.map fun l => l.push status
      tasks := if e.watch.isSome then withTask .watch e.tasks else e.tasks }
  simp only
  split
  · rw [view_wake]
    rfl
  · rfl

theorem view_announce (now : Instant) (e : Engine) (change : Received Bool) :
    (announce now e change).view = e.view.heard change := by
  rcases change with (_ | _) | missed
  · exact e.view_publish .offline now
  · simp only [announce, view_requestDrain, view_publish]
    rfl
  · exact e.view_log _

/-- The connectivity task asks for a pass for every change to online that it receives. -/
theorem view_runConnectivity (e : Engine) (now : Instant) :
    (e.runConnectivity now).view =
      match e.view.connectivity with
      | none => e.view
      | some position =>
        (e.view.monitor.changes.receive position).foldl View.heard
          { e.view with connectivity := some e.view.monitor.changes.sent } := by
  unfold runConnectivity
  cases h : e.connectivity with
  | none => simp only [show e.view.connectivity = none from h]
  | some position =>
    simp only [show e.view.connectivity = some position from h]
    -- Each change is announced to the engine as it is heard by the view.
    exact (List.foldl_hom view fun e change => (view_announce now e change).symm).symm

theorem view_carryOver (e : Engine) (report : Received NetworkStatus) :
    (carryOver e report).view = e.view.carried report := by
  cases report with
  | message status => exact view_setOnline e _
  | lagged missed => exact e.view_log _

theorem view_runWatch (e : Engine) :
    e.runWatch.view =
      match e.view.watch, e.view.listener with
      | some position, some listener =>
        (listener.reports.receive position).foldl View.carried
          { e.view with watch := some listener.reports.sent }
      | _, _ => e.view := by
  unfold runWatch
  cases h : e.watch with
  | none => simp only [show e.view.watch = none from h]
  | some position =>
    cases hl : e.listener with
    | none =>
      simp only [show e.view.watch = some position from h, show e.view.listener = none from hl]
    | some listener =>
      simp only [show e.view.watch = some position from h,
        show e.view.listener = some listener from hl]
      exact (List.foldl_hom view fun e report => (view_carryOver e report).symm).symm

/-! ## One message at a time -/

/-- The connectivity task takes the next change of the network, if one waits for it. -/
def hearChange (now : Instant) (e : Engine) : Engine :=
  match e.connectivity.bind e.monitor.changes.next? with
  | none => e
  | some (change, place) => announce now { e with connectivity := some place } change

/-- The watch takes the next report, if one waits for it. -/
def hearReport (e : Engine) : Engine :=
  match e.watch, e.listener with
  | some position, some listener =>
    match listener.reports.next? position with
    | none => e
    | some (report, place) => carryOver { e with watch := some place } report
  | _, _ => e

/-- Where the connectivity task stands is of no account to what it announces. -/
theorem announce_eq (now : Instant) (e : Engine) (place : Option Nat) (change : Received Bool) :
    announce now { e with connectivity := place } change =
      { announce now e change with monitor := e.monitor, connectivity := place } := by
  rcases change with (_ | _) | missed
  · simp only [announce, publish, called_eq, logAll_eq]
    rfl
  · simp only [announce, publish, called_eq, logAll_eq]
    rfl
  · rfl

/-- Where the watch stands is of no account to what it carries over. -/
theorem carryOver_eq (e : Engine) (place : Option Nat) (report : Received NetworkStatus) :
    carryOver { e with watch := place } report =
      { carryOver e report with listener := e.listener, watch := place } := by
  cases report with
  | lagged missed => rfl
  | message status =>
    simp only [carryOver, setOnline, logAll_eq, wake]
    split
    · split <;> rfl
    · rfl

/-- The connectivity task comes to the same whether it takes the changes that wait all in one go or
one at a time. -/
theorem exists_iterate_hearChange (now : Instant) {e : Engine} {position : Nat}
    (stands : e.connectivity = some position)
    (kept : e.monitor.changes.recent.length ≤ e.monitor.changes.sent)
    (reached : position ≤ e.monitor.changes.sent) :
    ∃ n, (hearChange now)^[n] e = e.runConnectivity now := by
  -- One message is taken by an engine that stands at its position; all else about it is arbitrary.
  have along := Channel.receive_induction kept reached (motive := fun position changes =>
    ∀ e' : Engine, e'.connectivity = some position → e'.monitor = e.monitor →
      ∃ n, (hearChange now)^[n] e' =
        changes.foldl (announce now) { e' with connectivity := some e.monitor.changes.sent })
  rw [runConnectivity, stands]
  refine along ?_ ?_ e stands rfl
  · intro e' stands' _
    exact ⟨0, by rw [← stands']; rfl⟩
  · intro position change place next ih e' stands' same
    let told := announce now { e' with connectivity := some place } change
    have heard : hearChange now e' = told := by
      simp only [hearChange, stands', same, Option.bind_some, next, told]
    have there : told.connectivity = some place ∧ told.monitor = e'.monitor := by
      simp only [told, announce_eq, and_self]
    obtain ⟨n, ran⟩ := ih told there.1 (there.2.trans same)
    refine ⟨n + 1, ?_⟩
    -- The position that the batch ends with overwrites the one in between.
    rw [Function.iterate_succ_apply, heard, ran, List.foldl_cons]
    simp only [told, announce_eq]

/-- And so does the watch. -/
theorem exists_iterate_hearReport {e : Engine} {position : Nat} {listener : Listener}
    (stands : e.watch = some position) (watched : e.listener = some listener)
    (kept : listener.reports.recent.length ≤ listener.reports.sent)
    (reached : position ≤ listener.reports.sent) :
    ∃ n, hearReport^[n] e = e.runWatch := by
  have along := Channel.receive_induction kept reached (motive := fun position reports =>
    ∀ e' : Engine, e'.watch = some position → e'.listener = some listener →
      ∃ n, hearReport^[n] e' =
        reports.foldl carryOver { e' with watch := some listener.reports.sent })
  have run : e.runWatch = (listener.reports.receive position).foldl carryOver
      { e with watch := some listener.reports.sent } := by
    rw [runWatch, stands, watched]
  rw [run]
  refine along ?_ ?_ e stands watched
  · intro e' stands' _
    exact ⟨0, by rw [← stands']; rfl⟩
  · intro position report place next ih e' stands' watched'
    let told := carryOver { e' with watch := some place } report
    have heard : hearReport e' = told := by
      simp only [hearReport, stands', watched', next, told]
    have there : told.watch = some place ∧ told.listener = e'.listener := by
      simp only [told, carryOver_eq, and_self]
    obtain ⟨n, ran⟩ := ih told there.1 (there.2.trans watched')
    refine ⟨n + 1, ?_⟩
    rw [Function.iterate_succ_apply, heard, ran, List.foldl_cons]
    simp only [told, carryOver_eq]

end Engine

end Outbox
