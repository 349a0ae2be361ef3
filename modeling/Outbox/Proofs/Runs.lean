import Outbox.Proofs.Background
import Outbox.Proofs.Operations

/-!
# Runs

A run is any sequence of what can be done with an engine from outside, of answers of the remote
side, and of tasks that get their turn. The engine suspends a pass at every call, so the moves of a
run fall between a call and its answer as they like. What a run has done is kept as a list of
occurrences, the latest first.
-/
namespace Outbox

open Table Time

/-- A change that is to be delivered. -/
structure Change where
  id : String
  operation : Operation
  kind : EntityKind
  entityId : String
  payload : Json
  deriving DecidableEq

namespace Change

/-- The mutation that is queued for a change. -/
def fresh (c : Change) (now : Instant) : Mutation :=
  .fresh c.id c.operation c.kind c.entityId c.payload now

end Change

/-- The change that a mutation delivers. -/
def Mutation.change (m : Mutation) : Change :=
  ⟨m.id, m.operation, m.kind, m.entityId, m.payload⟩

inductive Move where
  | enqueue (c : Change)
  | mutate (c : Change)
  | purge (id : String)
  | clear
  | deadLetter (id : String)
  | requeue (id : String)
  | purgeDeadLetter (id : String)
  | setOnline (online : Bool)
  /-- The platform reports a state of the network. -/
  | push (status : NetworkStatus)
  | process
  | answer (a : Answer)
  /-- The ready task at a position gets its turn. -/
  | run (position : Nat)

/-- The change that a move is to queue. -/
def Move.change? : Move → Option Change
  | .enqueue c | .mutate c => some c
  | _ => none

/-- What happens in a session, as far as the properties of runs speak of it. -/
inductive Occurrence where
  | queued (c : Change)
  /-- A mutation or a dead letter was removed by hand. -/
  | removed (id : String)
  | requeued (id : String)
  | began
  | ended
  /-- A pass in the background was not made, since one was in progress. -/
  | declined
  /-- A pass was not made, since the queue could not be listed. -/
  | unlisted
  | answered (m : Mutation) (a : Answer)
  | turned (online : Bool)
  deriving DecidableEq

namespace Occurrence

/-- What becomes of a pass that was to be made. -/
def ofOutcome : Option Outcome → List Occurrence
  | none => [.began]
  | some (.finished _) => [.ended, .began]
  | some (.failed _) => [.unlisted]
  | some (.skipped _) | some .panicked => []

/-- The turns of the network that reports amount to. -/
def ofReports (online : Bool) : List (Received NetworkStatus) → List Occurrence
  | [] => []
  | .message status :: rest =>
    ofReports status.isReachable rest ++
      if status.isReachable = online then [] else [.turned status.isReachable]
  | .lagged _ :: rest => ofReports online rest

/-- An occurrence that is about a pass as a whole. -/
def isPass : Occurrence → Bool
  | .began | .ended | .declined | .unlisted => true
  | _ => false

theorem isPass_ofOutcome (outcome : Option Outcome) : ∀ d ∈ ofOutcome outcome, d.isPass = true := by
  rcases outcome with _ | _ | _ | _ | _ <;> simp [ofOutcome, isPass]

theorem turned_of_ofReports {online : Bool} {reports : List (Received NetworkStatus)}
    {d : Occurrence}
    (member : d ∈ ofReports online reports) : ∃ turn, d = .turned turn := by
  induction reports generalizing online with
  | nil => cases member
  | cons report reports ih =>
    cases report with
    | message status =>
      rcases List.mem_append.mp member with later | first
      · exact ih later
      · split at first
        · cases first
        · exact ⟨_, List.mem_singleton.mp first⟩
    | lagged _ => exact ih member

end Occurrence

/-- What a move can tell of. Any move may be one of a pass. -/
inductive Move.Tells : Move → Occurrence → Prop
  | pass {move : Move} {d : Occurrence} (about : d.isPass = true) : Tells move d
  | enqueue (c : Change) : Tells (.enqueue c) (.queued c)
  | mutate (c : Change) : Tells (.mutate c) (.queued c)
  | purge (id : String) : Tells (.purge id) (.removed id)
  | clear (id : String) : Tells .clear (.removed id)
  | requeue (id : String) : Tells (.requeue id) (.requeued id)
  | purgeDeadLetter (id : String) : Tells (.purgeDeadLetter id) (.removed id)
  | setOnline (online : Bool) : Tells (.setOnline online) (.turned online)
  | answer (m : Mutation) (a : Answer) : Tells (.answer a) (.answered m a)
  | run (position : Nat) (online : Bool) : Tells (.run position) (.turned online)

/-- The keys of rows as texts. -/
def idsOf (rows : List Row) : List String :=
  (keysOf rows).filterMap fun
    | .text id => some id
    | _ => none

namespace Engine

/-- The occurrences of an operation that succeeded. -/
def tell {α : Type} (past : α → List Occurrence) :
    Engine × Except Error α → Engine × List Occurrence
  | (e, .ok x) => (e, past x)
  | (e, .error _) => (e, [])

/-- The reports that wait for the watch. -/
def reports (e : Engine) : List (Received NetworkStatus) :=
  match e.watch, e.listener with
  | some position, some listener => listener.reports.receive position
  | _, _ => []

/-- Runs a task that left the ready ones. -/
def runTask (e : Engine) (now : Instant) : Task → Engine × List Occurrence
  | .drain =>
    match e.startPass now with
    | (e, some (.failed fault)) =>
      (e.log (.error ("❌ 后台队列处理失败: " ++ fault.message)), [.unlisted])
    | (e, some (.skipped .alreadyRunning)) => (e, [.declined])
    | (e, outcome) => (e, Occurrence.ofOutcome outcome)
  | .connectivity => (e.runConnectivity now, [])
  | .watch => (e.runWatch, Occurrence.ofReports e.isOnline e.reports)

/-- Makes a move. -/
def perform (e : Engine) (now : Instant) : Move → Engine × List Occurrence
  | .enqueue c => tell (fun _ => [.queued c]) (e.enqueue (c.fresh now) now)
  | .mutate c => tell (fun _ => [.queued c]) (e.mutate (c.fresh now) now)
  | .purge id => tell (fun found => if found then [.removed id] else []) (e.purge id now)
  | .clear => tell (fun _ => (idsOf (e.database.rowsOf .queue)).map .removed) (e.clear now)
  | .deadLetter id => tell (fun _ => []) (e.deadLetter id now)
  | .requeue id => tell (fun m => if m.isSome then [.requeued id] else []) (e.requeue id now)
  | .purgeDeadLetter id =>
    tell (fun found => if found then [.removed id] else []) (e.purgeDeadLetter id now)
  | .setOnline online =>
    let (e, changed) := e.setOnline online
    (e, if changed then [.turned online] else [])
  | .push status => (e.push status, [])
  | .process =>
    let (e, outcome) := e.startPass now
    (e, Occurrence.ofOutcome outcome)
  | .answer a =>
    match e.inFlight with
    | none => (e, [])
    | some m =>
      let (e, outcome) := e.answer a now
      (e, if outcome.isSome then [.ended, .answered m a] else [.answered m a])
  | .run position =>
    match e.tasks[position]? with
    | none => (e, [])
    | some t => runTask { e with tasks := e.tasks.eraseIdx position } now t

theorem mem_tell {α : Type} {f : α → List Occurrence} {result : Engine × Except Error α}
    {d : Occurrence}
    (member : d ∈ (tell f result).2) : ∃ x, d ∈ f x := by
  obtain ⟨e, fault | x⟩ := result
  · cases member
  · exact ⟨x, member⟩

theorem isPass_of_drain {e : Engine} {now : Instant} {d : Occurrence}
    (told : d ∈ (e.runTask now .drain).2) : d.isPass = true := by
  simp only [runTask] at told
  split at told
  · exact List.mem_singleton.mp told ▸ rfl
  · exact List.mem_singleton.mp told ▸ rfl
  · exact Occurrence.isPass_ofOutcome _ d told

theorem tells_of_mem {e : Engine} {now : Instant} {move : Move} {d : Occurrence}
    (told : d ∈ (e.perform now move).2) : move.Tells d := by
  cases move with
  | enqueue c =>
    obtain ⟨_, member⟩ := mem_tell told
    exact List.mem_singleton.mp member ▸ .enqueue c
  | mutate c =>
    obtain ⟨_, member⟩ := mem_tell told
    exact List.mem_singleton.mp member ▸ .mutate c
  | purge id =>
    obtain ⟨found, member⟩ := mem_tell told
    cases found with
    | true => exact List.mem_singleton.mp member ▸ .purge id
    | false => cases member
  | clear =>
    obtain ⟨_, member⟩ := mem_tell told
    obtain ⟨id, -, rfl⟩ := List.mem_map.mp member
    exact .clear id
  | deadLetter id =>
    obtain ⟨_, member⟩ := mem_tell told
    cases member
  | requeue id =>
    obtain ⟨found, member⟩ := mem_tell told
    cases found with
    | some _ => exact List.mem_singleton.mp member ▸ .requeue id
    | none => cases member
  | purgeDeadLetter id =>
    obtain ⟨found, member⟩ := mem_tell told
    cases found with
    | true => exact List.mem_singleton.mp member ▸ .purgeDeadLetter id
    | false => cases member
  | setOnline online =>
    simp only [perform] at told
    split at told
    · exact List.mem_singleton.mp told ▸ .setOnline online
    · cases told
  | push status => cases told
  | process => exact .pass (Occurrence.isPass_ofOutcome _ d told)
  | answer a =>
    simp only [perform] at told
    split at told
    · cases told
    next m _ =>
      have either : d = .ended ∨ d = .answered m a := by
        simp only at told
        split at told
        · simpa using told
        · exact .inr (List.mem_singleton.mp told)
      rcases either with rfl | rfl
      · exact .pass rfl
      · exact .answer m a
  | run position =>
    simp only [perform] at told
    split at told
    · cases told
    next t _ =>
      cases t with
      | drain => exact .pass (isPass_of_drain told)
      | connectivity => cases told
      | watch =>
        obtain ⟨turn, rfl⟩ := Occurrence.turned_of_ofReports told
        exact .run position turn

/-- Only who asks for it queues a change. -/
theorem change_of_queued {e : Engine} {now : Instant} {move : Move} {c : Change}
    (queued : .queued c ∈ (e.perform now move).2) : move.change? = some c := by
  cases tells_of_mem queued with
  | pass about => cases about
  | enqueue | mutate => rfl

end Engine

/-! ## Sessions -/

/-- An engine with what was done with it, and the time of the latest move. -/
structure Session where
  engine : Engine
  past : List Occurrence
  clock : Instant

namespace Session

def after (s : Session) (now : Instant) (move : Move) : Session :=
  let (e, past) := s.engine.perform now move
  ⟨e, past ++ s.past, now⟩

/-- A run of moves each of which is allowed where it is made. -/
inductive Run (allowed : Session → Instant → Move → Prop) (s : Session) : Session → Prop
  | refl : Run allowed s s
  | step {t : Session} (run : Run allowed s t) {now : Instant} {move : Move}
      (ok : allowed t now move) : Run allowed s (t.after now move)

/-- A session after some moves. -/
def through (s : Session) (moves : List Move) : Session := moves.foldl (·.after .epoch ·) s

/-- Each of some moves is allowed where it is made. -/
def Each (allowed : Session → Instant → Move → Prop) (s : Session) : List Move → Prop
  | [] => True
  | move :: moves => allowed s .epoch move ∧ (s.after .epoch move).Each allowed moves

variable {allowed : Session → Instant → Move → Prop}

instance decidableEach [∀ s now move, Decidable (allowed s now move)] (s : Session)
    (moves : List Move) : Decidable (s.Each allowed moves) :=
  match moves with
  | [] => .isTrue trivial
  | move :: moves =>
    have := decidableEach (s.after .epoch move) moves
    inferInstanceAs (Decidable (allowed s .epoch move ∧ (s.after .epoch move).Each allowed moves))

theorem Run.through {s t : Session} (run : Run allowed s t) {moves : List Move}
    (each : t.Each allowed moves) : Run allowed s (t.through moves) := by
  induction moves generalizing t with
  | nil => exact run
  | cons move moves ih => exact ih (run.step each.1) each.2

/-- What allows less has fewer runs. -/
theorem Run.mono {wider : Session → Instant → Move → Prop} {s t : Session}
    (imp : ∀ s now move, allowed s now move → wider s now move) (run : Run allowed s t) :
    Run wider s t := by
  induction run with
  | refl => exact .refl
  | step _ ok ih => exact ih.step (imp _ _ _ ok)

end Session

end Outbox
