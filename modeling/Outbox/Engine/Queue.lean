import Outbox.Engine.Basic
import Outbox.Text.Quoted

/-!
# The queue of an engine

Whoever changes the length of the queue announces the new length. A mutation that is queued while
the remote side can be reached also asks for a pass.
-/
namespace Outbox

open Time

/-- How many mutations wait, and in which state. -/
structure QueueStats where
  total : Nat
  pending : Nat
  exhausted : Nat
  deadLetters : Nat
  deriving DecidableEq, Repr

namespace Database

def queueStats (db : Database) : Except Error QueueStats := do
  let exhausted ← db.mutationsIn .exhausted
  let total ← db.countMutations
  let letters ← db.countDeadLetters
  pure ⟨total, total - exhausted.length, exhausted.length, letters⟩

end Database

namespace Engine

/-- Announces a queue that got longer. -/
def afterEnqueue (e : Engine) (pending : Nat) : Engine :=
  let e := e.emit (.queueChanged pending)
  if e.isOnline then e.tellRequester else e

/-- Queues a mutation without a local copy. -/
def enqueue (e : Engine) (m : Mutation) (now : Instant) : Engine × Except Error String :=
  match e.access now fun db => db.enqueue m with
  | (e, .error fault) => (e, .error fault)
  | (e, .ok pending) =>
    let e := e.log (.info ("📥 入队: id=" ++ m.id ++ ", " ++ m.summary))
    (e.afterEnqueue pending, .ok m.id)

/-- Changes the local copy of an entity and queues the mutation with it. -/
def mutate (e : Engine) (m : Mutation) (now : Instant) : Engine × Except Error String :=
  match e.access now fun db => db.mutate m now with
  | (e, .error fault) => (e, .error fault)
  | (e, .ok pending) =>
    let e := e.log (.info ("📥 本地写入并入队: id=" ++ m.id ++ ", " ++ m.summary))
    (e.afterEnqueue pending, .ok m.id)

/-- Removes a mutation from the queue, and says whether it was there. -/
def dequeue (e : Engine) (id : String) (now : Instant) : Engine × Except Error Bool :=
  match e.access now fun db => db.dequeue id with
  | (e, .error fault) => (e, .error fault)
  -- Without a removal the length is the one that was announced before.
  | (e, .ok (removed, pending)) =>
    (if removed then e.emit (.queueChanged pending) else e, .ok removed)

/-- Removes a mutation by hand. -/
def purge (e : Engine) (id : String) (now : Instant) : Engine × Except Error Bool :=
  match e.dequeue id now with
  | (e, .ok true) => (e.log (.info ("🗑️ 已人工删除同步项: " ++ id)), .ok true)
  | other => other

/-- Empties the queue and says how many mutations it held. -/
def clear (e : Engine) (now : Instant) : Engine × Except Error Nat :=
  match e.change now Database.clearMutations with
  | (e, .error fault) => (e, .error fault)
  | (e, .ok removed) =>
    let e := e.log (.info ("🗑️ 已清空同步队列，共 " ++ toString removed ++ " 条"))
    (e.emit (.queueChanged 0), .ok removed)

/-- Writes back the failures of a mutation, and says whether it is still queued. -/
def update (e : Engine) (m : Mutation) (now : Instant) : Engine × Except Error Bool :=
  e.change now fun db => db.updateRetryState m

/-! ## Dead letters -/

/-- Gives a mutation up. -/
def moveToDeadLetters (e : Engine) (m : Mutation) (now : Instant) :
    Engine × Except Error DeadLetter :=
  let letter : DeadLetter := ⟨m, now⟩
  match e.access now fun db => db.bury letter with
  | (e, .error fault) => (e, .error fault)
  | (e, .ok pending) =>
    let e := e.log (.info ("☠️ 已移入死信: id=" ++ m.id ++ ", " ++ m.entityPath ++ ", error="
      ++ Text.quotedOption m.lastError))
    (e.emit (.queueChanged pending), .ok letter)

/-- Gives a queued mutation up by hand. -/
def deadLetter (e : Engine) (id : String) (now : Instant) :
    Engine × Except Error (Option DeadLetter) :=
  match e.query now fun db => db.mutation? id with
  | (e, .error fault) => (e, .error fault)
  | (e, .ok none) => (e, .ok none)
  -- The letter is made of the row as it was read, not of a copy in a pass.
  | (e, .ok (some m)) =>
    let (e, result) := e.moveToDeadLetters m now
    (e, result.map some)

/-- Queues the mutation of a dead letter anew. -/
def requeue (e : Engine) (id : String) (now : Instant) :
    Engine × Except Error (Option Mutation) :=
  match e.access now fun db => db.revive id now with
  | (e, .error fault) => (e, .error fault)
  | (e, .ok none) => (e, .ok none)
  | (e, .ok (some (m, pending))) =>
    let e := e.log (.info ("♻️ 死信重新入队: " ++ m.id))
    (e.afterEnqueue pending, .ok (some m))

/-- Removes a dead letter for good. -/
def purgeDeadLetter (e : Engine) (id : String) (now : Instant) : Engine × Except Error Bool :=
  match e.change now fun db => db.deleteDeadLetter id with
  | (e, .ok true) => (e.log (.info ("🗑️ 已删除死信: " ++ id)), .ok true)
  | other => other

end Engine

end Outbox
