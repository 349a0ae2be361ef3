import Outbox.Engine.Lifecycle
import Outbox.Engine.Records
import Outbox.Remote.Side

/-!
# An engine at work

An engine together with the remote side that it calls. A pass goes on from call to call until it
ends or an answer is held back; tasks in the background run one at a time, in the order in which
they became ready, until none is left.
-/
namespace Outbox

open Time

structure Host where
  engine : Engine
  remote : Remote
  /-- The answer that the call in flight will get when it is released. -/
  held : Option Answer

namespace Host

/-- Applies a step of the engine. -/
def step {α : Type} (h : Host) (f : Engine → Engine × α) : Host × α :=
  let (e, x) := f h.engine
  ({ h with engine := e }, x)

/-- Makes at most so many calls of the remote side, and says how the pass ended if it did. -/
def deliver (now : Instant) : Nat → Host → Host × Option Outcome
  | 0, h => (h, none)
  | calls + 1, h =>
    match h.engine.inFlight with
    | none => (h, none)
    | some m =>
      let (remote, turn, lines) := h.remote.call m
      let h : Host := { h with remote := remote, engine := h.engine.logAll lines }
      -- The pass waits at a call that is held back, and others go on meanwhile.
      if turn.isGated then ({ h with held := some turn.answer }, none)
      else
        match h.step fun e => e.answer turn.answer now with
        | (h, some outcome) => (h, some outcome)
        | (h, none) => deliver now calls h

/-- Goes on with the pass in progress. -/
def advance (h : Host) (now : Instant) : Host × Option Outcome :=
  deliver now h.engine.callsLeft h

/-- Makes a pass. Without an outcome it waits for an answer that is held back. -/
def process (h : Host) (now : Instant) : Host × Option Outcome :=
  match h.step fun e => e.startPass now with
  | (h, some outcome) => (h, some outcome)
  | (h, none) => h.advance now

/-- Lets the answer that is held back go through. -/
def release (h : Host) (now : Instant) : Host × Option Outcome :=
  match h.held with
  | none => (h, none)
  | some a =>
    match step { h with held := none } fun e => e.answer a now with
    | (h, some outcome) => (h, some outcome)
    | (h, none) => h.advance now

/-- Runs a task. A pass in the background that fails is only logged. -/
def runTask (h : Host) (now : Instant) : Task → Host
  | .drain =>
    match h.process now with
    | (h, some (.failed fault)) =>
      { h with engine := h.engine.log (.error ("❌ 后台队列处理失败: " ++ fault.message)) }
    | (h, _) => h
  | .connectivity => { h with engine := h.engine.runConnectivity now }
  | .watch => { h with engine := h.engine.runWatch }

/-- Runs at most so many tasks. -/
def runTasks (now : Instant) : Nat → Host → Host
  | 0, h => h
  | n + 1, h =>
    match h.engine.nextTask? with
    | none => h
    | some (t, e) => runTasks now n (runTask { h with engine := e } now t)

/-- Runs the background until nothing moves. -/
def settle (h : Host) (now : Instant) : Host := runTasks now h.engine.taskBound h

end Host

end Outbox
