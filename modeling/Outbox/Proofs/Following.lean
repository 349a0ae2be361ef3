import Mathlib.Data.List.Chain
import Outbox.Network
import Outbox.Proofs.Channels

/-!
# How the monitor follows a listener

Every start of the monitor makes one more watch, and all watches carry the same reports over, each
at its own pace. A watch that is too slow misses reports, and a quick one may have gone on to the
latest report while a slow one still carries over an older one; in between the monitor may say
anything. But no watch misses the latest report, and the last of them to get there carries that
over; from then on the monitor says what the listener says.

A schedule is a list of moves, one at a time: a watch is not interrupted while it carries over a
report, and then any other may go on.
-/
namespace Outbox

namespace Monitor

/-- A call of a monitor, with what came of it. -/
inductive CallResult where
  /-- Its state is set, and it says whether that was a change. -/
  | set (online changed : Bool)
  /-- Somebody receives its changes from now on. -/
  | joined
  deriving DecidableEq

namespace CallResult

/-- The state that a call changed the monitor to. -/
def turn? : CallResult → Option Bool
  | .set online true => some online
  | .set _ false | .joined => none

/-- A channel to which each change is sent, and nothing else. -/
def announce (c : Channel Bool) : CallResult → Channel Bool
  | .set online true => c.send online
  | .set _ false => c
  | .joined => c.subscribe.1

end CallResult

/-- What comes of setting the state. -/
def callResult (m : Monitor) (online : Bool) : CallResult := .set online (m.setOnline online).2.1

/-- What comes of carrying over a report. -/
def results (m : Monitor) : Received NetworkStatus → List CallResult
  | .message status => [m.callResult status.isReachable]
  | .lagged _ => []

/-- What a monitor can come to by some calls: it announces the negation of its state, or nothing. -/
inductive Turns (m : Monitor) : List CallResult → Monitor → Prop where
  | silent : Turns m [] m
  | same : Turns m [.set m.online false] m
  | turned : Turns m [.set (!m.online) true] ⟨!m.online, m.changes.send (!m.online)⟩
  | joined : Turns m [.joined] { m with changes := m.changes.subscribe.1 }

theorem setOnline_turns (m : Monitor) (online : Bool) :
    m.Turns [m.callResult online] (m.setOnline online).1 := by
  by_cases same : m.online = online
  · subst same
    simp only [callResult, setOnline, if_true]
    exact .same
  · obtain rfl : online = !m.online := Bool.eq_not.mpr fun same' => same same'.symm
    simp only [callResult, setOnline, if_neg same]
    exact .turned

theorem online_setOnline (m : Monitor) (online : Bool) :
    (m.setOnline online).1.online = online := by
  unfold setOnline
  split
  next same => exact same
  · rfl

end Monitor

open Monitor (CallResult)

namespace Network

/-! ## Schedules -/

/-- No watch has a report to carry over. -/
def Idle (n : Network) : Prop := ∀ position ∈ n.watches, n.listener.reports.next? position = none

instance (n : Network) : Decidable n.Idle := inferInstanceAs (Decidable (∀ _ ∈ _, _))

/-- What happens to a network. -/
inductive Move where
  | set (online : Bool)
  | start
  | push (status : NetworkStatus)
  /-- A watch goes on by one report. -/
  | hear (watch : Nat)
  | stop
  /-- One more receiver of changes. -/
  | listen
  deriving DecidableEq

/-- A watch carries over what it receives next, if anything waits for it. -/
def hear (n : Network) (watch : Nat) : Network × List CallResult :=
  match n.watches[watch]?.bind n.listener.reports.next? with
  | none => (n, [])
  | some (report, place) =>
    ({ n with monitor := n.monitor.follow [report], watches := n.watches.set watch place },
      n.monitor.results report)

def step (n : Network) : Move → Network × List CallResult
  | .set online =>
    ({ n with monitor := (n.monitor.setOnline online).1 }, [n.monitor.callResult online])
  | .start => (n.start.1, [n.monitor.callResult n.listener.status.isReachable])
  | .push status => (n.push status, [])
  | .hear watch => n.hear watch
  | .stop => ({ n with listener := n.listener.stop }, [])
  | .listen =>
    ({ n with monitor := { n.monitor with changes := n.monitor.changes.subscribe.1 } }, [.joined])

def run (n : Network) : List Move → Network × List CallResult
  | [] => (n, [])
  | move :: rest =>
    let (n', results) := n.step move
    let (n'', more) := n'.run rest
    (n'', results ++ more)

variable {n : Network}

theorem run_append (n : Network) (moves more : List Move) :
    n.run (moves ++ more) =
      (((n.run moves).1.run more).1, (n.run moves).2 ++ ((n.run moves).1.run more).2) := by
  induction moves generalizing n with
  | nil => rfl
  | cons move rest ih => simp only [List.cons_append, run, ih, List.append_assoc]

/-- A watch carries a report over, or nothing happens. -/
theorem hear_cases (n : Network) (watch : Nat) :
    n.hear watch = (n, []) ∨
      ∃ position report place, n.watches[watch]? = some position ∧
        n.listener.reports.next? position = some (report, place) ∧
        n.hear watch =
          ({ n with monitor := n.monitor.follow [report], watches := n.watches.set watch place },
            n.monitor.results report) := by
  unfold hear
  split
  · exact .inl rfl
  next report place waits =>
    obtain ⟨position, there, next⟩ := Option.bind_eq_some_iff.mp waits
    exact .inr ⟨position, report, place, there, next, rfl⟩

/-! ## What the monitor announces -/

theorem step_turns (n : Network) (move : Move) :
    n.monitor.Turns (n.step move).2 (n.step move).1.monitor := by
  cases move with
  | set online => exact n.monitor.setOnline_turns online
  | start =>
    have turns := n.monitor.setOnline_turns n.listener.status.isReachable
    simp only [step, start]
    split <;> exact turns
  | push | stop => exact .silent
  | listen => exact .joined
  | hear watch =>
    rcases n.hear_cases watch with still | ⟨position, report, place, -, -, heard⟩
    · simp only [step, still]
      exact .silent
    · simp only [step, heard]
      cases report with
      | message status => exact n.monitor.setOnline_turns status.isReachable
      | lagged missed => exact .silent

/-- Each change is the negation of the state before it, and every change is sent. -/
theorem run_turns (n : Network) (moves : List Move) :
    List.IsChain (fun before after => after = !before)
        (n.monitor.online :: (n.run moves).2.filterMap CallResult.turn?) ∧
      (n.run moves).1.monitor.changes =
        (n.run moves).2.foldl CallResult.announce n.monitor.changes := by
  induction moves generalizing n with
  | nil => exact ⟨List.isChain_singleton _, rfl⟩
  | cons move rest ih =>
    obtain ⟨chain, sent⟩ := ih (n.step move).1
    have turns := n.step_turns move
    simp only [run, List.filterMap_append, List.foldl_append, sent]
    -- The rest begins with the state that the step left, which is what the step can have announced.
    revert chain
    generalize (n.step move).1.monitor = m' at turns ⊢
    generalize (n.step move).2 = results at turns ⊢
    intro chain
    cases turns with
    | silent | same | joined => exact ⟨chain, rfl⟩
    | turned => exact ⟨List.isChain_cons_cons.mpr ⟨rfl, chain⟩, rfl⟩

/-! ## The latest report -/

/-- The listener can be watched, it keeps what it reports for whoever watches, and no watch is ahead
of it. -/
structure Sound (n : Network) : Prop where
  refusal : n.listener.refusal = none
  capacity : n.listener.reports.capacity ≠ 0
  kept : n.listener.reports.recent.length ≤ n.listener.reports.sent
  receivers : n.watches ≠ [] → n.listener.reports.receivers ≠ 0
  reached : ∀ position ∈ n.watches, position ≤ n.listener.reports.sent

/-- A report was made to the watches, and the latest of them is what the listener says. Once all
have come to the end, the monitor says the same. -/
structure Following (n : Network) : Prop where
  watched : n.watches ≠ []
  latest : n.listener.reports.recent.getLast? = some n.listener.status
  online : (∀ position ∈ n.watches, position = n.listener.reports.sent) →
    n.monitor.online = n.listener.status.isReachable

theorem sound_starting (online : Bool) (status : NetworkStatus) :
    (starting online status).Sound where
  refusal := rfl
  capacity := Channel.capacity_ofCapacity 16
  kept := Nat.le_refl 0
  receivers watched := absurd rfl watched
  reached _ member := absurd member List.not_mem_nil

/-- A start makes one more watch, which stands at the end of the reports. -/
theorem start_eq (refusal : n.listener.refusal = none) :
    n.start.1 =
      ⟨(n.monitor.setOnline n.listener.status.isReachable).1,
        { n.listener with reports := n.listener.reports.subscribe.1, monitoring := true },
        n.watches ++ [n.listener.reports.sent]⟩ := by
  simp only [start, Listener.start, refusal]
  rfl

theorem step_sound (sound : n.Sound) (move : Move) : (n.step move).1.Sound := by
  cases move with
  | set | stop | listen =>
    exact ⟨sound.refusal, sound.capacity, sound.kept, sound.receivers, sound.reached⟩
  | start =>
    simp only [step, start_eq sound.refusal]
    refine ⟨sound.refusal, sound.capacity, sound.kept, fun _ => Nat.succ_ne_zero _, ?_⟩
    intro position member
    rcases List.mem_append.mp member with old | new
    · exact sound.reached position old
    · exact Nat.le_of_eq (List.mem_singleton.mp new)
  | push status =>
    have receivers : (n.push status).listener.reports.receivers = n.listener.reports.receivers := by
      simp only [push, Listener.push, Channel.send]
      split <;> rfl
    -- A report moves no watch, and the end only goes further away.
    refine ⟨sound.refusal, ?_, Channel.kept_send sound.kept status, ?_, fun position member => ?_⟩
    · simp only [step, push, Listener.push, Channel.send]
      split <;> exact sound.capacity
    · exact fun watched => receivers ▸ sound.receivers watched
    · have watched : n.watches ≠ [] := List.ne_nil_of_mem member
      have sent := Channel.sent_send (sound.receivers watched) status
      exact Nat.le_trans (sound.reached position member) (sent ▸ Nat.le_succ _)
  | hear watch =>
    rcases n.hear_cases watch with still | ⟨position, report, place, there, next, heard⟩
    · simp only [step, still]
      exact sound
    · simp only [step, heard]
      obtain ⟨-, within, -⟩ := Channel.next?_advances sound.kept next
      refine ⟨sound.refusal, sound.capacity, sound.kept, fun _ => ?_, fun other member => ?_⟩
      · exact sound.receivers (List.ne_nil_of_mem (List.mem_of_getElem? there))
      · rcases List.mem_or_eq_of_mem_set member with old | rfl
        · exact sound.reached other old
        · exact within

theorem run_sound (sound : n.Sound) (moves : List Move) : (n.run moves).1.Sound := by
  induction moves generalizing n with
  | nil => exact sound
  | cons move rest ih => exact ih (step_sound sound move)

/-- No watch goes away. -/
theorem step_watched (sound : n.Sound) (move : Move)
    (watched : n.watches ≠ [] ∨ move = .start) : (n.step move).1.watches ≠ [] := by
  cases move with
  | start =>
    simp only [step, start_eq sound.refusal]
    exact List.append_ne_nil_of_right_ne_nil _ (List.cons_ne_nil _ _)
  | hear watch =>
    have watched := watched.resolve_right Move.noConfusion
    rcases n.hear_cases watch with still | ⟨position, report, place, -, -, heard⟩
    · simp only [step, still]
      exact watched
    · simp only [step, heard]
      exact fun none => watched (by simpa using none)
  | set | push | stop | listen => exact watched.resolve_right Move.noConfusion

theorem run_watched (sound : n.Sound) {moves : List Move}
    (watched : n.watches ≠ [] ∨ .start ∈ moves) : (n.run moves).1.watches ≠ [] := by
  induction moves generalizing n with
  | nil => exact watched.resolve_right List.not_mem_nil
  | cons move rest ih =>
    refine ih (step_sound sound move) ?_
    rcases watched with watched | member
    · exact .inl (step_watched sound move (.inl watched))
    · rcases List.mem_cons.mp member with rfl | later
      · exact .inl (step_watched sound .start (.inr rfl))
      · exact .inr later

/-- A report is the latest one, and nobody has it yet. -/
theorem push_following (sound : n.Sound) (watched : n.watches ≠ []) (status : NetworkStatus) :
    (n.push status).Following where
  watched := watched
  latest := Channel.getLast?_recent_send (sound.receivers watched) sound.capacity status
  online idle := by
    -- A watch stood at the old end at most, so it is not at the new one.
    obtain ⟨position, member⟩ := List.exists_mem_of_ne_nil _ watched
    have sent := Channel.sent_send (sound.receivers watched) status
    have reached := sound.reached position member
    have ended : position = (n.listener.reports.send status).sent := idle position member
    omega

theorem step_following (sound : n.Sound) (following : n.Following) {move : Move}
    (apart : ∀ online, move ≠ .set online) : (n.step move).1.Following := by
  cases move with
  | set online => exact absurd rfl (apart online)
  | push status => exact push_following sound following.watched status
  | stop | listen => exact ⟨following.watched, following.latest, following.online⟩
  | start =>
    have watched := step_watched sound .start (.inr rfl)
    simp only [step, start_eq sound.refusal] at watched ⊢
    exact ⟨watched, following.latest, fun _ => Monitor.online_setOnline ..⟩
  | hear watch =>
    have watched := step_watched sound (.hear watch) (.inl following.watched)
    rcases n.hear_cases watch with still | ⟨position, report, place, there, next, heard⟩
    · simp only [step, still]
      exact following
    · simp only [step, heard] at watched ⊢
      refine ⟨watched, following.latest, fun idle => ?_⟩
      -- If all have come to the end, this one just did, and with the latest report.
      obtain ⟨bound, -⟩ := List.getElem?_eq_some_iff.mp there
      have ended := idle place (List.mem_set bound place)
      obtain ⟨-, -, last⟩ := Channel.next?_advances sound.kept next
      rw [last _ following.latest ended]
      exact Monitor.online_setOnline ..

theorem run_following (sound : n.Sound) (following : n.Following) {moves : List Move}
    (apart : ∀ online, .set online ∉ moves) : (n.run moves).1.Following := by
  induction moves generalizing n with
  | nil => exact following
  | cons move rest ih =>
    refine ih (step_sound sound move) (step_following sound following ?_) ?_
    · rintro online rfl
      exact apart online List.mem_cons_self
    · exact fun online member => apart online (List.mem_cons_of_mem _ member)

theorem Following.of_idle (following : n.Following) (sound : n.Sound) (idle : n.Idle) :
    n.monitor.online = n.listener.status.isReachable := by
  refine following.online fun position member => ?_
  exact (Channel.next?_eq_none_iff sound.kept (sound.reached position member)).mp
    (idle position member)

/-! ## Coming to the end -/

/-- The moves of a schedule in which watches go on and nothing else happens. -/
def Hears (moves : List Move) : Prop := ∀ move ∈ moves, ∃ watch, move = .hear watch

/-- A watch can go on until it is at the end, and then it has carried over all that waited for
it. -/
theorem exists_run_watch (sound : n.Sound) {watch position : Nat}
    (there : n.watches[watch]? = some position) :
    ∃ moves, Hears moves ∧ (n.run moves).1 =
      { n with
        monitor := n.monitor.follow (n.listener.reports.receive position)
        watches := n.watches.set watch n.listener.reports.sent } := by
  have reached := sound.reached position (List.mem_of_getElem? there)
  have along := Channel.receive_induction sound.kept reached (motive := fun position reports =>
    ∀ n' : Network, n'.listener = n.listener → n'.watches[watch]? = some position →
      ∃ moves, Hears moves ∧ (n'.run moves).1 =
        { n' with
          monitor := n'.monitor.follow reports
          watches := n'.watches.set watch n.listener.reports.sent })
  refine along ?_ ?_ n rfl there
  · intro n' _ there'
    obtain ⟨bound, stands⟩ := List.getElem?_eq_some_iff.mp there'
    refine ⟨[], fun move member => absurd member List.not_mem_nil, ?_⟩
    rw [← stands, List.set_getElem_self]
    rfl
  · -- The watch takes one report and stands where the rest begins.
    intro position report place next ih n' same there'
    have heard : n'.step (.hear watch) =
        ({ n' with monitor := n'.monitor.follow [report], watches := n'.watches.set watch place },
          n'.monitor.results report) := by
      simp only [step, hear, there', same, Option.bind_some, next]
    obtain ⟨bound, -⟩ := List.getElem?_eq_some_iff.mp there'
    have moved : (n'.step (.hear watch)).1.watches[watch]? = some place := by
      rw [heard]
      exact List.getElem?_set_self bound
    have still : (n'.step (.hear watch)).1.listener = n.listener := by rw [heard, same]
    obtain ⟨moves, hears, ran⟩ := ih _ still moved
    refine ⟨.hear watch :: moves, List.forall_mem_cons.mpr ⟨⟨watch, rfl⟩, hears⟩, ?_⟩
    change ((n'.step (.hear watch)).1.run moves).1 = _
    rw [ran, heard, List.set_set]
    rfl

/-- What the watches in some places come to, one after the other. -/
theorem exists_run_watches (sound : n.Sound) {done waiting : List Nat}
    (watches : n.watches = done ++ waiting) :
    ∃ moves, Hears moves ∧ (n.run moves).1 =
      { n with
        monitor := waiting.foldl (fun m position =>
          m.follow (n.listener.reports.receive position)) n.monitor
        watches := done ++ waiting.map fun _ => n.listener.reports.sent } := by
  induction waiting generalizing n done with
  | nil =>
    refine ⟨[], fun move member => absurd member List.not_mem_nil, ?_⟩
    rw [List.map_nil, ← watches]
    rfl
  | cons position rest ih =>
    have there : n.watches[done.length]? = some position := by
      rw [watches, List.getElem?_append_right (Nat.le_refl _), Nat.sub_self,
        List.getElem?_cons_zero]
    -- The first watch comes to the end, and then the others start from what it made of the monitor.
    obtain ⟨first, hears, ran⟩ := exists_run_watch sound there
    have sound' := run_sound sound first
    have watches' : (n.run first).1.watches = (done ++ [n.listener.reports.sent]) ++ rest := by
      rw [ran]
      simp only [watches, List.set_append_right _ _ (Nat.le_refl _), Nat.sub_self,
        List.set_cons_zero, List.append_assoc, List.singleton_append]
    obtain ⟨later, hears', ran'⟩ := ih sound' watches'
    refine ⟨first ++ later, fun move member => ?_, ?_⟩
    · exact (List.mem_append.mp member).elim (hears move) (hears' move)
    · rw [run_append, ran', ran]
      simp only [List.map_cons, List.foldl_cons, List.append_assoc, List.singleton_append]

/-- The watches can come to the end in turn, and then they are idle. -/
theorem exists_run_settle (sound : n.Sound) :
    ∃ moves, Hears moves ∧ (n.run moves).1 = n.settle ∧ n.settle.Idle := by
  have all : n.watches = [] ++ n.watches := rfl
  obtain ⟨moves, hears, ran⟩ := exists_run_watches sound all
  refine ⟨moves, hears, ran, fun position member => ?_⟩
  obtain ⟨-, -, rfl⟩ := List.mem_map.mp member
  exact (Channel.next?_eq_none_iff sound.kept (Nat.le_refl _)).mpr rfl

end Network

/-- However the monitor is started, set and told of reports, and whichever watch goes on next: each
change that it announces is the negation of its state before, and it announces one for each call
that was a change and none for the others. Where something was reported to a watch and the state was
not set by hand since, the monitor says what the listener says as soon as all watches are idle; and
they can come to that at any time. -/
theorem monitor_follows_listener (online : Bool) (status : NetworkStatus)
    (moves : List Network.Move) :
    let (n, results) := (Network.starting online status).run moves
    (List.IsChain (fun before after => after = !before)
        (online :: results.filterMap Monitor.CallResult.turn?) ∧
      n.monitor.changes = results.foldl Monitor.CallResult.announce (.ofCapacity 100)) ∧
    (∀ before latest batch, moves = before ++ .push latest :: batch → .start ∈ before →
      (∀ value, .set value ∉ batch) → n.Idle →
        n.monitor.online = n.listener.status.isReachable) ∧
    ∃ hears, Network.Hears hears ∧ (n.run hears).1 = n.settle ∧ n.settle.Idle := by
  have sound := Network.sound_starting online status
  refine ⟨Network.run_turns (.starting online status) moves, ?_,
    Network.exists_run_settle (Network.run_sound sound moves)⟩
  rintro before latest batch rfl started apart idle
  -- The report makes the network a following one, and the rest of the schedule keeps it so.
  have sound' := Network.run_sound sound before
  have watched := Network.run_watched sound (.inr started)
  have following := Network.run_following (Network.step_sound sound' (.push latest))
    (Network.push_following sound' watched latest) apart
  rw [Network.run_append] at idle ⊢
  refine following.of_idle ?_ idle
  exact Network.run_sound (Network.step_sound sound' (.push latest)) batch

namespace Network

/-- One of two watches carries a report over before there are nineteen more; then each goes on to
the end. -/
def sampleBatch : List Move :=
  .hear 0 :: (List.replicate 9 [.push .offline, .push .limited]).flatten ++ .push .connecting ::
    (List.replicate 17 (.hear 1) ++ List.replicate 17 (.hear 0))

end Network

/-- The theorem at two watches that miss reports. The monitor turns again and again, as one of them
carries over what the other one did before. -/
theorem lagging_watches_followed :
    let moves : List Network.Move := [.listen, .start, .set true, .start] ++ .push .online ::
      Network.sampleBatch
    let (n, results) := (Network.starting true .offline).run moves
    n.listener.reports.sent = 20 ∧ n.listener.reports.recent.length = 16 ∧
      n.listener.status = .connecting ∧ n.monitor.online = n.listener.status.isReachable ∧
      (results.filterMap Monitor.CallResult.turn?).length = 35 ∧ n.monitor.changes.sent = 35 ∧
      List.IsChain (fun before after => after = !before)
        (true :: results.filterMap Monitor.CallResult.turn?) := by
  obtain ⟨⟨chain, -⟩, follows, -⟩ := monitor_follows_listener true .offline
    ([.listen, .start, .set true, .start] ++ .push .online :: Network.sampleBatch)
  have online := follows [.listen, .start, .set true, .start] .online Network.sampleBatch rfl
    (by decide) (by decide) (by decide +kernel)
  exact ⟨by decide +kernel, by decide +kernel, by decide +kernel, online, by decide +kernel,
    by decide +kernel, chain⟩

end Outbox
