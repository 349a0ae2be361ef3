import Outbox.Engine.Queue

/-!
# A pass over the queue

A pass tries every mutation that is queued when it begins, one after another. Its length is fixed
from the start: what is queued meanwhile waits for the next pass, and what is removed meanwhile is
still sent. Trouble with the store over one mutation is logged and stays with that mutation; only
a queue that cannot be listed ends the whole pass.

A pass is cut at the calls of the remote side. `startPass` runs up to the first call and `answer`
from one call to the next, and both say how the pass ended if it did.
-/
namespace Outbox

open Time

/-- Why no pass is made. -/
inductive Skip where
  | alreadyRunning
  | offline
  deriving DecidableEq, Repr

/-- How a pass ends. -/
inductive Outcome where
  | skipped (reason : Skip)
  | finished (report : Report)
  /-- The queue could not be listed. -/
  | failed (fault : Error)
  /-- A call of the remote side never ended in an orderly way. -/
  | panicked

namespace Report

def empty : Report := ⟨0, 0, 0, 0, 0⟩

/-- The report in the log. -/
def summary (r : Report) : String :=
  "attempted=" ++ toString r.attempted ++ ", succeeded=" ++ toString r.succeeded
    ++ ", retried=" ++ toString r.retried ++ ", exhausted=" ++ toString r.exhausted
    ++ ", dead_lettered=" ++ toString r.deadLettered

end Report

namespace Engine

/-! ## What follows from an answer -/

/-- A confirmed mutation leaves the queue. -/
def confirm (e : Engine) (m : Mutation) (report : Report) (now : Instant) :
    Engine × Except Error Report :=
  match e.dequeue m.id now with
  | (e, .error fault) => (e, .error fault)
  -- Somebody may have removed it meanwhile; it was delivered all the same.
  | (e, .ok _) =>
    let e := e.log (.info ("✅ 同步成功: " ++ m.summary))
    (e.emit (.itemSynced m.id m.kind.name m.entityId),
      .ok { report with succeeded := report.succeeded + 1 })

/-- A mutation below the limit keeps its place. -/
def retryLater (e : Engine) (m : Mutation) (error : String) (report : Report) (now : Instant) :
    Engine × Except Error Report :=
  match e.update m now with
  | (e, .error fault) => (e, .error fault)
  -- The failure is told whether or not there was a row to write it to.
  | (e, .ok _) =>
    let e := e.log (.warn ("⚠️ 同步失败，等待下次重试: id=" ++ m.id ++ ", retry_count="
      ++ toString m.retries ++ ", error=" ++ error))
    (e.emit (.itemFailed m.id m.retries error), .ok { report with retried := report.retried + 1 })

/-- A mutation at the limit keeps its place too and is marked. The mark is announced once. -/
def exhaust (e : Engine) (m : Mutation) (error : String) (report : Report) (now : Instant) :
    Engine × Except Error Report :=
  let marked := { m with state := .exhausted }
  match e.update marked now with
  | (e, .error fault) => (e, .error fault)
  | (e, .ok _) =>
    -- Whether the mark is new is told by the copy that was sent, not by the row.
    let e :=
      if m.isExhausted then e
      else
        let e := e.log (.warn ("🚨 同步项重试次数已达上限 (" ++ toString e.policy.maxRetries
          ++ "), 需要人工处理: id=" ++ m.id ++ ", " ++ m.entityPath ++ ", error=" ++ error))
        e.emit (.itemExhausted m.id m.retries m.lastError)
    (e.emit (.itemFailed m.id m.retries error),
      .ok { report with exhausted := report.exhausted + 1 })

/-- A refused mutation becomes a dead letter. -/
def giveUp (e : Engine) (m : Mutation) (failure : Failure) (report : Report) (now : Instant) :
    Engine × Except Error Report :=
  match e.moveToDeadLetters m now with
  | (e, .error fault) => (e, .error fault)
  | (e, .ok _) =>
    let status := match failure.status? with
      | some n => "Some(" ++ toString n ++ ")"
      | none => "None"
    let e := e.log (.warn ("☠️ 永久失败，不再重试: id=" ++ m.id ++ ", status=" ++ status
      ++ ", error=" ++ failure.reason))
    (e.emit (.itemDeadLettered m.id failure.status? failure.message),
      .ok { report with deadLettered := report.deadLettered + 1 })

/-- Counts a failure and does what the policy decides. -/
def settleFailure (e : Engine) (m : Mutation) (failure : Failure) (report : Report)
    (now : Instant) : Engine × Except Error Report :=
  let m := m.recordFailure failure.message
  match e.policy.decide m.retries failure with
  | .retry => e.retryLater m failure.message report now
  | .exhausted => e.exhaust m failure.message report now
  | .deadLetter => e.giveUp m failure report now

/-- Trouble with the store leaves the mutation out of every count but the attempts. -/
def contain (m : Mutation) (report : Report) : Engine × Except Error Report → Engine × Report
  | (e, .ok report) => (e, report)
  | (e, .error fault) =>
    (e.log (.error ("❌ 处理同步项 " ++ m.id ++ " 时本地存储失败: " ++ fault.message)), report)

/-! ## From call to call -/

/-- Logs the length of the queue. -/
def logStats (e : Engine) (now : Instant) : Engine :=
  match e.query now Database.queueStats with
  | (e, .ok s) =>
    e.log (.info ("🔍 队列统计: total=" ++ toString s.total ++ ", pending=" ++ toString s.pending
      ++ ", exhausted=" ++ toString s.exhausted ++ ", dead_letters=" ++ toString s.deadLetters))
  | (e, .error fault) => e.log (.warn ("⚠️ 读取队列统计失败: " ++ fault.message))

/-- Ends a pass in good order. -/
def finishPass (e : Engine) (report : Report) (now : Instant) : Engine × Option Outcome :=
  let e := e.log (.info ("✅ 同步队列处理完成: " ++ report.summary))
  let e := e.publish .synced now
  let e := if e.debug then e.logStats now else e
  ({ e with pass := none }, some (.finished report))

/-- Sends a mutation. -/
def send (e : Engine) (m : Mutation) : Engine :=
  let e :=
    if e.debug then
      e.log (.info ("🔍 投递同步项: id=" ++ m.id ++ ", " ++ m.summary ++ ", retry_count="
        ++ toString m.retries ++ ", data=" ++ m.payload.text))
    else e
  e.record (.sent m)

/-- Goes on with the next mutation, or ends the pass. -/
def continuePass (e : Engine) (rest : List Mutation) (report : Report) (now : Instant) :
    Engine × Option Outcome :=
  match rest with
  | [] => e.finishPass report now
  | m :: rest =>
    -- It is an attempt from now on, whatever comes of it.
    let report := { report with attempted := report.attempted + 1 }
    ({ e.send m with pass := some ⟨m, rest, report⟩ }, none)

/-- Begins a pass, unless one is in progress or the remote side cannot be reached. -/
def startPass (e : Engine) (now : Instant) : Engine × Option Outcome :=
  if !e.isOnline then (e, some (.skipped .offline))
  else if e.isProcessing then (e, some (.skipped .alreadyRunning))
  else
    let e := (e.log (.info "🔄 开始处理同步队列")).publish .syncing now
    match e.query now Database.mutations with
    | (e, .ok queued) => e.continuePass queued .empty now
    -- One row that cannot be read keeps the whole queue from being listed.
    | (e, .error fault) =>
      let e := e.log (.error ("❌ 同步队列处理失败: " ++ fault.message))
      (e.publish .error now, some (.failed fault))

/-- Takes the answer to the mutation in flight. -/
def answer (e : Engine) (a : Answer) (now : Instant) : Engine × Option Outcome :=
  match e.pass with
  | none => (e, none)
  | some p =>
    let e := e.record (.answered p.current a)
    match a with
    -- The pass is over on the spot: nothing is written back and no status is published.
    | .panicked => ({ e with pass := none }, some .panicked)
    | .confirmed =>
      let (e, report) := contain p.current p.report (e.confirm p.current p.report now)
      e.continuePass p.rest report now
    | .failed failure =>
      let (e, report) :=
        contain p.current p.report (e.settleFailure p.current failure p.report now)
      e.continuePass p.rest report now

end Engine

end Outbox
