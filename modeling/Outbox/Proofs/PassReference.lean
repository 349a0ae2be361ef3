import Outbox.Proofs.Launch
import Outbox.Proofs.Stock

/-!
# A whole pass and its reference

A pass that nobody disturbs does to every mutation what the answer to that mutation asks for, in
the order of the queue, and to nothing else. What is queued while a call is in flight is neither
sent nor changed. The reference says so item by item, without an engine: what an exchange leaves in
the queue, what it adds to the dead letters and where it is counted.

One answer is a function on single rows of the queue that keeps their time. Such functions commute
with the order in which the queue is listed, so the rest is an induction over the exchanges.
-/
namespace Outbox

open Table Time

/-! ## Exchanges -/

/-- A mutation that is queued while a call is in flight, alone or with a change of the local
copy. -/
structure Arrival where
  mutation : Mutation
  withCopy : Bool
  time : Instant

/-- What happens to one mutation in a pass: what is queued during its call, and how that ends. -/
structure Exchange where
  sent : Mutation
  arrivals : List Arrival
  /-- Why the mutation was not taken, if it was not. -/
  failure : Option Failure
  time : Instant

/-- What becomes of a mutation that was sent. -/
inductive Fate where
  | delivered
  /-- It failed for a while and has retries left. -/
  | retried
  /-- It failed for a while and has reached the limit. -/
  | exhausted
  | refused
  deriving DecidableEq

namespace Exchange

def reply (x : Exchange) : Answer :=
  match x.failure with
  | none => .confirmed
  | some failure => .failed failure

/-- The failures of the mutation after one more; counting stops at the largest count. -/
def failures (x : Exchange) : Nat := min maxRetryCount (x.sent.retries + 1)

def fate (p : RetryPolicy) (x : Exchange) : Fate :=
  match x.failure with
  | none => .delivered
  | some (.transient _) => if p.maxRetries ≤ x.failures then .exhausted else .retried
  | some (.permanent _ _) => .refused

/-- What stays in the queue. -/
def left? (p : RetryPolicy) (x : Exchange) : Option Mutation :=
  match x.failure with
  | some (.transient reason) =>
    some { x.sent with
      retries := x.failures
      lastError := some (Failure.transient reason).message
      state := if p.maxRetries ≤ x.failures then .exhausted else x.sent.state }
  | _ => none

/-- What becomes a dead letter. -/
def letter? (x : Exchange) : Option DeadLetter :=
  match x.failure with
  | some (.permanent status reason) =>
    some ⟨{ x.sent with
      retries := x.failures
      lastError := some (Failure.permanent status reason).message }, x.time⟩
  | _ => none

/-- The ids of all that is queued during some exchanges. -/
def arrivalIds (xs : List Exchange) : List String := xs.flatMap (·.arrivals.map (·.mutation.id))

end Exchange

/-- The dead letters after some more; a letter renews an earlier one of the same id. -/
def filed (letters : List DeadLetter) (rows : List Row) : List Row :=
  letters.foldl (fun rows l => upserted [6, 7, 8] l.mutation.id l.toRow rows) rows

/-- A report after some exchanges more. -/
def Report.after (r : Report) (p : RetryPolicy) (xs : List Exchange) : Report where
  attempted := r.attempted + xs.length
  succeeded := r.succeeded + xs.countP (·.fate p = .delivered)
  retried := r.retried + xs.countP (·.fate p = .retried)
  exhausted := r.exhausted + xs.countP (·.fate p = .exhausted)
  deadLettered := r.deadLettered + xs.countP (·.fate p = .refused)

namespace Engine

def arrive (e : Engine) (a : Arrival) : Engine :=
  if a.withCopy then (e.mutate a.mutation a.time).1 else (e.enqueue a.mutation a.time).1

/-- Goes on with a pass by one exchange. -/
def exchange (e : Engine) (x : Exchange) : Engine × Option Outcome :=
  (x.arrivals.foldl arrive e).answer x.reply x.time

/-- A pass from its beginning through some exchanges. -/
def wholePass (e : Engine) (now : Instant) (xs : List Exchange) : Engine × Option Outcome :=
  xs.foldl (fun state x => state.1.exchange x) (e.startPass now)

end Engine

/-- What a pass through some exchanges did, by its reference. -/
structure PassReference (p : RetryPolicy) (xs : List Exchange) (before after : View)
    (report : Report) : Prop where
  /-- Every mutation was sent once, as it was stored and in the order of the queue. -/
  sent : after.deliveries = before.deliveries ++ xs.map (·.sent)
  attempted : report.attempted = xs.length
  succeeded : report.succeeded = xs.countP (·.fate p = .delivered)
  retried : report.retried = xs.countP (·.fate p = .retried)
  exhausted : report.exhausted = xs.countP (·.fate p = .exhausted)
  deadLettered : report.deadLettered = xs.countP (·.fate p = .refused)
  total : report.attempted =
    report.succeeded + report.retried + report.exhausted + report.deadLettered
  /-- The queue holds what stays, in its former order, and behind it what was queued meanwhile. -/
  queue : ∃ stay come : List Row, after.queueRows = stay ++ come ∧
    (sortRows (rowLE Database.queueOrder) stay).mapM Mutation.ofRow =
      .ok (xs.filterMap (·.left? p)) ∧
    come.map (·.cells) = xs.flatMap (·.arrivals.map (·.mutation.toRow))
  letters : after.letterRows = filed (xs.filterMap (·.letter?)) before.letterRows
  idle : after.pass = none

/-! ## One answer on single rows -/

namespace Exchange

variable {p : RetryPolicy} {x : Exchange}

/-- What the answer makes of a row of the queue. -/
def row? (p : RetryPolicy) (x : Exchange) (r : Row) : Option Row :=
  if r.hasKey x.sent.id then (x.left? p).map fun m => r.overwrite [6, 7, 8] m.toRow else some r

theorem left?_of_transient {reason : String} (failed : x.failure = some (.transient reason)) :
    x.left? p = some (x.sent.retained p (Failure.transient reason).message) := by
  simp only [left?, failed, Mutation.retained, Mutation.recordFailure, failures]
  by_cases limit : p.maxRetries ≤ min maxRetryCount (x.sent.retries + 1)
  · simp only [limit, if_true]
  · simp only [limit, if_false]

theorem row?_eq_some {r r' : Row} (left : x.row? p r = some r') :
    r' = r ∨ ∃ m, x.left? p = some m ∧ r' = r.overwrite [6, 7, 8] m.toRow := by
  unfold row? at left
  split at left
  · obtain ⟨m, stays, rfl⟩ := Option.map_eq_some_iff.mp left
    exact .inr ⟨m, stays, rfl⟩
  · cases left
    exact .inl rfl

theorem time_row? {r r' : Row} (left : x.row? p r = some r') : r'.time = r.time := by
  rcases row?_eq_some left with rfl | ⟨m, -, rfl⟩
  · rfl
  · exact m.time_overwrite r

theorem key_row? {r r' : Row} (left : x.row? p r = some r') : r'.cell 0 = r.cell 0 := by
  rcases row?_eq_some left with rfl | ⟨m, -, rfl⟩
  · rfl
  · exact m.cell_overwrite r _ (by decide)

theorem row?_of_other {r : Row} (other : r.cell 0 ≠ .text x.sent.id) : x.row? p r = some r := by
  rw [row?, if_neg (mt Row.hasKey_iff.mp other)]

/-- Rows of other mutations stay as they are. -/
theorem filterMap_row?_of_absent {rows : List Row} (absent : .text x.sent.id ∉ keysOf rows) :
    rows.filterMap (x.row? p) = rows := by
  induction rows with
  | nil => rfl
  | cons r rest ih =>
    rw [keysOf, List.map_cons, List.mem_cons, not_or] at absent
    rw [List.filterMap_cons_some (row?_of_other fun same => absent.1 same.symm), ih absent.2]

theorem mem_keysOf_filterMap_row? {rows : List Row} {c : Cell}
    (left : c ∈ keysOf (rows.filterMap (x.row? p))) : c ∈ keysOf rows := by
  obtain ⟨r', member, rfl⟩ := mem_keysOf.mp left
  obtain ⟨r, before, stays⟩ := List.mem_filterMap.mp member
  exact mem_keysOf.mpr ⟨r, before, (key_row? stays).symm⟩

/-- A mutation of which nothing is left is taken out, and other rows are not looked at. -/
theorem filterMap_row?_of_none (none : x.left? p = none) (rows : List Row) :
    rows.filterMap (x.row? p) = without x.sent.id rows := by
  rw [without, ← List.filterMap_eq_filter]
  refine List.filterMap_congr fun r _ => ?_
  by_cases key : r.hasKey x.sent.id = true <;> simp [row?, Option.guard, none, key]

/-- A failure for a while is written into the row of the mutation. -/
theorem filterMap_row?_of_transient {reason : String}
    (failed : x.failure = some (.transient reason)) (rows : List Row) :
    rows.filterMap (x.row? p) = replaced [6, 7, 8] x.sent.id
      (x.sent.retained p (Failure.transient reason).message).toRow rows := by
  rw [replaced, ← List.filterMap_eq_map']
  refine List.filterMap_congr fun r _ => ?_
  rw [row?, left?_of_transient failed]
  split <;> rfl

/-- In the queue an answer works row by row. -/
theorem settled_eq (s : Stock) (p : RetryPolicy) (x : Exchange) :
    s.settled p x.sent x.time x.reply =
      { s with
        queue := s.queue.filterMap (x.row? p)
        letters := filed x.letter?.toList s.letters } := by
  rcases failed : x.failure with _ | reason | ⟨status, reason⟩
  · simp only [reply, failed, Stock.settled, letter?,
      filterMap_row?_of_none (show x.left? p = none by rw [left?, failed])]
    rfl
  · simp only [reply, failed, Stock.settled, letter?, filterMap_row?_of_transient failed]
    rfl
  · simp only [reply, failed, Stock.settled, Stock.buried, letter?, Mutation.recordFailure,
      filterMap_row?_of_none (show x.left? p = none by rw [left?, failed])]
    rfl

theorem counted_eq (r : Report) (p : RetryPolicy) (x : Exchange) :
    r.counted p x.sent x.reply =
      match x.fate p with
      | .delivered => { r with succeeded := r.succeeded + 1 }
      | .retried => { r with retried := r.retried + 1 }
      | .exhausted => { r with exhausted := r.exhausted + 1 }
      | .refused => { r with deadLettered := r.deadLettered + 1 } := by
  rcases failed : x.failure with _ | reason | ⟨status, reason⟩
  · simp only [reply, fate, failed, Report.counted]
  · simp only [reply, fate, failed, Report.counted, Mutation.recordFailure, failures]
    by_cases limit : p.maxRetries ≤ min maxRetryCount (x.sent.retries + 1)
    · simp only [limit, if_true]
    · simp only [limit, if_false]
  · simp only [reply, fate, failed, Report.counted]

theorem counted_after (r : Report) (p : RetryPolicy) (x : Exchange) (xs : List Exchange) :
    (Report.counted { r with attempted := r.attempted + 1 } p x.sent x.reply).after p xs =
      r.after p (x :: xs) := by
  rw [counted_eq]
  cases fate : x.fate p <;>
    simp [Report.after, fate, Nat.add_assoc, Nat.add_comm 1]

end Exchange

/-! ## All answers on the queue as it is listed -/

/-- The rows of the queue after some exchanges. -/
def answered (p : RetryPolicy) (xs : List Exchange) (rows : List Row) : List Row :=
  xs.foldl (fun rows x => rows.filterMap (x.row? p)) rows

theorem byTime_answered (p : RetryPolicy) (xs : List Exchange) (rows : List Row) :
    byTime (answered p xs rows) = answered p xs (byTime rows) := by
  induction xs generalizing rows with
  | nil => rfl
  | cons x xs ih =>
    -- One exchange changes single rows and none of their times, so it commutes with the listing.
    refine (ih _).trans ?_
    rw [byTime_filterMap fun r r' => Exchange.time_row?]
    rfl

theorem filterMap_cons_toList {α β : Type} (f : α → Option β) (a : α) (as : List α) :
    (a :: as).filterMap f = (f a).toList ++ as.filterMap f := by
  rw [List.filterMap_eq_flatMap_toList, List.flatMap_cons, ← List.filterMap_eq_flatMap_toList]

/-- A row that holds a mutation holds, after the answer to it, what that leaves. -/
theorem read_row? {p : RetryPolicy} {x : Exchange} {r : Row}
    (read : Mutation.ofRow r = .ok x.sent) :
    List.Forall₂ (fun r m => Mutation.ofRow r = .ok m) (x.row? p r).toList (x.left? p).toList := by
  have key : r.hasKey x.sent.id = true :=
    Row.hasKey_iff.mpr (Mutation.ofRow_eq_ok_iff.mp read).1.id
  rw [Exchange.row?, if_pos key]
  rcases failed : x.failure with _ | reason | ⟨status, reason⟩
  · simp [Exchange.left?, failed]
  · simp only [Exchange.left?, failed, Option.map_some, Option.toList_some]
    refine .cons ?_ .nil
    exact Mutation.ofRow_overwrite read (Nat.min_le_left _ _)
  · simp [Exchange.left?, failed]

/-- The answers of a pass leave what the reference says, whatever was left before. -/
theorem read_answered {p : RetryPolicy} {xs : List Exchange} {done todo : List Row}
    {left : List Mutation} (distinct : (xs.map (·.sent.id)).Nodup)
    (apart : ∀ x ∈ xs, .text x.sent.id ∉ keysOf done)
    (read : List.Forall₂ (fun r m => Mutation.ofRow r = .ok m) done left)
    (listed : List.Forall₂ (fun r m => Mutation.ofRow r = .ok m) todo (xs.map (·.sent))) :
    List.Forall₂ (fun r m => Mutation.ofRow r = .ok m) (answered p xs (done ++ todo))
      (left ++ xs.filterMap (·.left? p)) := by
  induction xs generalizing done todo left with
  | nil =>
    rw [List.forall₂_nil_right_iff.mp listed, List.append_nil, List.filterMap_nil, List.append_nil]
    exact read
  | cons x xs ih =>
    -- The first row holds the mutation that is answered; its id is found nowhere else.
    obtain ⟨r, rest, first, others, rfl⟩ := List.forall₂_cons_right_iff.mp listed
    obtain ⟨new, distinct⟩ := List.nodup_cons.mp distinct
    have key := (Mutation.ofRow_eq_ok_iff.mp first).1.id
    have ids : idsOf rest = xs.map (·.sent.id) := by
      rw [idsOf_of_listed (mapM_eq_ok_iff.mpr others), List.map_map]
      rfl
    have step : (done ++ r :: rest).filterMap (x.row? p) =
        (done ++ (x.row? p r).toList) ++ rest := by
      have gone : .text x.sent.id ∉ keysOf rest := by rwa [← mem_idsOf, ids]
      rw [List.filterMap_append, List.append_assoc,
        Exchange.filterMap_row?_of_absent (apart x List.mem_cons_self)]
      cases stays : x.row? p r with
      | none => simp [List.filterMap_cons_none stays, Exchange.filterMap_row?_of_absent gone]
      | some r' => simp [List.filterMap_cons_some stays, Exchange.filterMap_row?_of_absent gone]
    rw [filterMap_cons_toList, ← List.append_assoc, answered, List.foldl_cons, step]
    -- What the answer leaves joins the rows that are done with, and no later answer is for them.
    refine ih distinct (fun y member => ?_) (List.rel_append read (read_row? first)) others
    rw [keysOf, List.map_append, List.mem_append, not_or]
    refine ⟨apart y (List.mem_cons_of_mem _ member), fun taken => ?_⟩
    obtain ⟨r', stays, same⟩ := mem_keysOf.mp taken
    rw [Option.mem_toList] at stays
    rw [Exchange.key_row? stays, key] at same
    exact new (List.mem_map.mpr ⟨y, member, (Cell.text.inj same).symm⟩)

/-! ## Engines -/

/-- A view with a policy and a stock. -/
structure View.Holds (v : View) (p : RetryPolicy) (s : Stock) : Prop where
  sound : v.Sound
  policy : v.policy = p
  stock : v.stock = s

/-- Rows that were written for some mutations have their ids. -/
theorem idsOf_of_cells {α : Type} {f : α → Mutation} {rows : List Row} {as : List α}
    (cells : rows.map (·.cells) = as.map fun a => (f a).toRow) :
    idsOf rows = as.map fun a => (f a).id := by
  induction rows generalizing as with
  | nil =>
    cases as with
    | nil => rfl
    | cons _ _ => cases cells
  | cons r rows ih =>
    cases as with
    | nil => cases cells
    | cons a as =>
      obtain ⟨first, others⟩ := List.cons.inj cells
      have written : r.cells = (f a).toRow := first
      have key : r.cell 0 = .text (f a).id := by
        rw [Row.cell, written]
        rfl
      rw [List.map_cons, ← ih others]
      simp only [idsOf, keysOf, List.map_cons, key]
      rfl

namespace Engine

variable {e : Engine} {p : RetryPolicy} {s : Stock}

theorem arrive_holds (holds : e.view.Holds p s) {a : Arrival}
    (fresh : .text a.mutation.id ∉ keysOf s.queue) :
    (e.arrive a).view.Holds p { s with queue := added s.queue a.mutation.toRow } := by
  obtain ⟨sound, rfl, rfl⟩ := holds
  unfold arrive
  split
  · obtain ⟨e', run, view⟩ := mutate_yields sound a.time fresh
    rw [run, view]
    refine ⟨((sound.withDatabase (sound.healthy.withRows _ _)).withQueue _).told, ?_, ?_⟩
    · rw [View.told_policy]
      rfl
    · rw [View.stock_told, View.stock_withQueue, View.stock_withCopies]
      rfl
  · obtain ⟨e', run, view⟩ := enqueue_yields sound a.time fresh
    rw [run, view]
    refine ⟨(sound.withQueue _).told, ?_, ?_⟩
    · rw [View.told_policy]
      rfl
    · rw [View.stock_told, View.stock_withQueue]
      rfl

/-- Whatever is queued during a call is appended. -/
theorem arriveAll_holds {as : List Arrival} (holds : e.view.Holds p s)
    (fresh : ∀ a ∈ as, .text a.mutation.id ∉ keysOf s.queue)
    (distinct : (as.map (·.mutation.id)).Nodup) :
    ∃ come, (as.foldl arrive e).view.Holds p { s with queue := s.queue ++ come } ∧
      come.map (·.cells) = as.map (·.mutation.toRow) := by
  induction as generalizing e s with
  | nil => exact ⟨[], by rwa [List.append_nil], rfl⟩
  | cons a as ih =>
    obtain ⟨new, distinct⟩ := List.nodup_cons.mp distinct
    obtain ⟨come, holds, cells⟩ := ih (arrive_holds holds (fresh a List.mem_cons_self))
      (fun b member taken => by
        rcases (mem_keysOf_added rfl).mp taken with before | same
        · exact fresh b (List.mem_cons_of_mem _ member) before
        · exact new (List.mem_map.mpr ⟨b, member, Cell.text.inj same⟩))
      distinct
    refine ⟨⟨(ofRows s.queue).nextNumber, a.mutation.toRow⟩ :: come, ?_, ?_⟩
    · rw [List.append_cons]
      exact holds
    · rw [List.map_cons, List.map_cons, cells]

theorem exchange_holds {x : Exchange} {rest : List Mutation} {report : Report}
    (holds : e.view.Holds p s) (waits : s.pass = some ⟨x.sent, rest, report⟩)
    (fresh : ∀ a ∈ x.arrivals, .text a.mutation.id ∉ keysOf s.queue)
    (distinct : (x.arrivals.map (·.mutation.id)).Nodup) :
    ∃ e' come, e.exchange x = (e', outcomeAfter rest (report.counted p x.sent x.reply)) ∧
      e'.view.Holds p
        (Stock.continued ⟨(s.queue ++ come).filterMap (x.row? p),
          filed x.letter?.toList s.letters, none, s.deliveries⟩ rest
          (report.counted p x.sent x.reply)) ∧
      come.map (·.cells) = x.arrivals.map (·.mutation.toRow) := by
  -- What arrives is in the queue already when the answer takes effect.
  obtain ⟨come, ⟨sound, policy, stock⟩, cells⟩ := arriveAll_holds holds fresh distinct
  have orderly : x.reply ≠ .panicked := by
    unfold Exchange.reply
    split <;> simp
  have inFlight : (x.arrivals.foldl arrive e).view.pass = some ⟨x.sent, rest, report⟩ :=
    (congrArg Stock.pass stock).trans waits
  obtain ⟨e', run, view⟩ := answer_yields sound inFlight orderly x.time
  simp only [policy] at run view
  refine ⟨e', come, run, ?_, cells⟩
  rw [view]
  refine ⟨(sound.settled _ _ _).continued _ _, ?_, ?_⟩
  · rw [View.continued_policy, View.settled_policy, policy]
  · rw [View.stock_continued, View.stock_settled, stock, policy, Exchange.settled_eq]
    exact (Stock.continued_of_pass _ none _ _).symm

end Engine

/-! ## Passes -/

theorem Exchange.arrivalIds_cons (x : Exchange) (xs : List Exchange) :
    arrivalIds (x :: xs) = x.arrivals.map (·.mutation.id) ++ arrivalIds xs := rfl

/-- A pass through its remaining exchanges. Of the rows of the queue the first ones were listed when
the pass began, and the others came since. -/
theorem exchanges_hold {p : RetryPolicy} {xs : List Exchange} {e : Engine} {report : Report}
    {stay come letters : List Row} {deliveries : List Mutation}
    (holds : e.view.Holds p
      (Stock.continued ⟨stay ++ come, letters, none, deliveries⟩ (xs.map (·.sent)) report))
    (apart : ∀ x ∈ xs, .text x.sent.id ∉ keysOf come)
    (fresh : ∀ id ∈ Exchange.arrivalIds xs, .text id ∉ keysOf (stay ++ come))
    (distinct : (xs.map (·.sent.id) ++ Exchange.arrivalIds xs).Nodup) :
    ∃ e' more, xs.foldl (fun state x => state.1.exchange x)
        (e, outcomeAfter (xs.map (·.sent)) report) = (e', some (.finished (report.after p xs))) ∧
      e'.view.Holds p ⟨answered p xs stay ++ (come ++ more),
        filed (xs.filterMap (·.letter?)) letters, none, deliveries ++ xs.map (·.sent)⟩ ∧
      more.map (·.cells) = xs.flatMap (·.arrivals.map (·.mutation.toRow)) := by
  induction xs generalizing e report stay come letters deliveries with
  | nil =>
    refine ⟨e, [], rfl, ?_, rfl⟩
    rw [List.append_nil, List.map_nil, List.append_nil]
    exact holds
  | cons x xs ih =>
    rw [Exchange.arrivalIds_cons] at fresh distinct
    obtain ⟨sentOnce, arrivedOnce, between⟩ := List.nodup_append.mp distinct
    obtain ⟨newOnce, laterOnce, newBetween⟩ := List.nodup_append.mp arrivedOnce
    obtain ⟨sentNew, sentOnce⟩ := List.nodup_cons.mp sentOnce
    obtain ⟨e₁, new, run, holds₁, cells⟩ := Engine.exchange_holds holds rfl
      (fun a member => fresh _ (List.mem_append_left _ (List.mem_map_of_mem member))) newOnce
    have newIds : idsOf new = x.arrivals.map (·.mutation.id) := idsOf_of_cells cells
    -- What comes has new ids, so neither this answer nor a later one is for it.
    have apart₁ : ∀ y ∈ x :: xs, .text y.sent.id ∉ keysOf (come ++ new) := by
      intro y member
      rw [keysOf_append, List.mem_append, not_or]
      refine ⟨apart y member, fun arrived => ?_⟩
      rw [← mem_idsOf, newIds] at arrived
      exact between _ (List.mem_map_of_mem member) _ (List.mem_append_left _ arrived) rfl
    have queue : (stay ++ come ++ new).filterMap (x.row? p) =
        stay.filterMap (x.row? p) ++ (come ++ new) := by
      rw [List.append_assoc, List.filterMap_append,
        Exchange.filterMap_row?_of_absent (apart₁ x List.mem_cons_self)]
    -- Neither what stays nor what came has an id that is still to come.
    have fresh₁ : ∀ id ∈ Exchange.arrivalIds xs,
        .text id ∉ keysOf (stay.filterMap (x.row? p) ++ (come ++ new)) := by
      intro id arrives taken
      have before := fresh id (List.mem_append_right _ arrives)
      rw [keysOf_append, List.mem_append, not_or] at before
      rw [keysOf_append, keysOf_append, List.mem_append, List.mem_append] at taken
      rcases taken with kept | earlier | late
      · exact before.1 (Exchange.mem_keysOf_filterMap_row? kept)
      · exact before.2 earlier
      · rw [← mem_idsOf, newIds] at late
        exact newBetween _ late _ arrives rfl
    have distinct₁ : (xs.map (·.sent.id) ++ Exchange.arrivalIds xs).Nodup := by
      refine List.nodup_append.mpr ⟨sentOnce, laterOnce, fun a sent b arrives => ?_⟩
      exact between a (List.mem_cons_of_mem _ sent) b (List.mem_append_right _ arrives)
    simp only [Stock.continued, List.map_cons, queue] at holds₁
    obtain ⟨e', more, run', holds', cells'⟩ := ih holds₁
      (fun y member => apart₁ y (List.mem_cons_of_mem _ member)) fresh₁ distinct₁
    refine ⟨e', new ++ more, ?_, ?_, ?_⟩
    · rw [List.foldl_cons, run, run', Exchange.counted_after]
    · have letters₁ : filed ((x :: xs).filterMap (·.letter?)) letters =
          filed (xs.filterMap (·.letter?)) (filed x.letter?.toList letters) := by
        rw [filterMap_cons_toList, filed, List.foldl_append]
        rfl
      rw [letters₁, List.map_cons, List.append_cons deliveries, ← List.append_assoc come]
      exact holds'
    · rw [List.map_append, cells, cells', List.flatMap_cons]

theorem Fate.countP_total (p : RetryPolicy) (xs : List Exchange) :
    xs.length = xs.countP (·.fate p = .delivered) + xs.countP (·.fate p = .retried) +
      xs.countP (·.fate p = .exhausted) + xs.countP (·.fate p = .refused) := by
  induction xs with
  | nil => rfl
  | cons x xs ih =>
    cases fate : x.fate p <;> simp [fate, ih] <;> omega

/-- The queue as it is listed after the answers to all that was listed before them. -/
theorem list_answered {p : RetryPolicy} {xs : List Exchange} {rows : List Row}
    (distinct : (xs.map (·.sent.id)).Nodup)
    (listed : (sortRows (rowLE [5]) rows).mapM Mutation.ofRow = .ok (xs.map (·.sent))) :
    (sortRows (rowLE [5]) (answered p xs rows)).mapM Mutation.ofRow =
      .ok (xs.filterMap (·.left? p)) := by
  have before := mapM_eq_ok_iff.mp (listed_iff_byTime.mp listed)
  rw [listed_iff_byTime, byTime_answered, mapM_eq_ok_iff]
  -- At the beginning of the pass no row is done with.
  have none : ∀ x ∈ xs, .text x.sent.id ∉ keysOf [] := fun _ _ taken => by cases taken
  exact read_answered distinct none .nil before

/-- A pass on an online, idle engine whose store is in order sends every queued mutation once, as
it is stored and in the order of the queue, counts every answer, keeps what failed for a while,
moves what was refused to the dead letters, and leaves alone what is queued meanwhile. -/
theorem pass_matches_reference {e : Engine} (sound : e.view.Sound) (online : e.isOnline = true)
    (idle : e.isProcessing = false) {xs : List Exchange}
    (listed : e.database.mutations = .ok (xs.map (·.sent)))
    (distinct : (xs.map (·.sent.id) ++ Exchange.arrivalIds xs).Nodup) (now : Instant) :
    ∃ e' report, e.wholePass now xs = (e', some (.finished report)) ∧
      PassReference e.policy xs e.view e'.view report := by
  have free : e.view.pass = none := Engine.isProcessing_eq_false_iff.mp idle
  have rows : (sortRows (rowLE [5]) e.view.queueRows).mapM Mutation.ofRow =
      .ok (xs.map (·.sent)) := sound.healthy.mutations ▸ listed
  obtain ⟨sentOnce, -, apart⟩ := List.nodup_append.mp distinct
  -- All that is in the queue is listed, and arrivals have other ids than what is listed.
  have fresh : ∀ id ∈ Exchange.arrivalIds xs, .text id ∉ keysOf e.view.queueRows := by
    intro id arrives taken
    rw [← mem_listed_iff rows, List.map_map] at taken
    exact apart id taken id arrives rfl
  obtain ⟨e₁, begun, view⟩ := Engine.startPass_yields sound online free listed now
  have holds : e₁.view.Holds e.policy
      (Stock.continued ⟨e.view.queueRows ++ [], e.view.letterRows, none, e.view.deliveries⟩
        (xs.map (·.sent)) .empty) := by
    rw [view, List.append_nil]
    refine ⟨sound.continued _ _, e.view.continued_policy _ _, ?_⟩
    rw [View.stock_continued]
    exact (Stock.continued_of_pass _ none _ _).symm
  obtain ⟨e', come, run, holds', cells⟩ := exchanges_hold holds (fun _ _ taken => by cases taken)
    (by rwa [List.append_nil]) distinct
  refine ⟨e', _, by rw [Engine.wholePass, begun, run], ?_⟩
  have queue : e'.view.queueRows = answered e.policy xs e.view.queueRows ++ come :=
    congrArg Stock.queue holds'.stock
  have left := list_answered (p := e.policy) sentOnce rows
  exact {
    sent := congrArg Stock.deliveries holds'.stock
    attempted := Nat.zero_add _
    succeeded := Nat.zero_add _
    retried := Nat.zero_add _
    exhausted := Nat.zero_add _
    deadLettered := Nat.zero_add _
    total := by simpa [Report.after, Report.empty] using Fate.countP_total e.policy xs
    queue := ⟨_, come, queue, left, cells⟩
    letters := congrArg Stock.letters holds'.stock
    idle := congrArg Stock.pass holds'.stock }

namespace Exchange

def sampleMutation (id : String) : Mutation :=
  .fresh id .update .incidents "i1" (.obj [("open", .bool true)]) .epoch

/-- One mutation is taken, one fails for a while as another is queued, and one is refused. -/
def samples : List Exchange :=
  [⟨sampleMutation "m1", [], none, .epoch⟩,
    ⟨sampleMutation "m2", [⟨sampleMutation "m4", true, .epoch⟩], some (.transient "HTTP 503"),
      .epoch⟩,
    ⟨sampleMutation "m3", [], some (.permanent (some 422) "no such incident"), .epoch⟩]

def sampleArrivals : List Arrival := samples.map fun x => ⟨x.sent, false, .epoch⟩

/-- An engine in whose queue the mutations of the samples are. -/
def sampleEngine : Engine := sampleArrivals.foldl Engine.arrive (.inMemory ⟨2⟩ true)

end Exchange

/-- The theorem at a pass over three mutations. -/
theorem three_fates_match_reference :
    ∃ e' report, Exchange.sampleEngine.wholePass .epoch Exchange.samples =
        (e', some (.finished report)) ∧
      PassReference ⟨2⟩ Exchange.samples Exchange.sampleEngine.view e'.view report ∧
      report = ⟨3, 1, 1, 0, 1⟩ := by
  have sound : Exchange.sampleEngine.view.Sound := by
    have holds : (Engine.inMemory ⟨2⟩ true).view.Holds ⟨2⟩ (Engine.inMemory ⟨2⟩ true).view.stock :=
      ⟨Engine.inMemory_sound ⟨2⟩ true, rfl, rfl⟩
    have fresh : ∀ a ∈ Exchange.sampleArrivals,
        .text a.mutation.id ∉ keysOf (Engine.inMemory ⟨2⟩ true).view.queueRows := by
      decide +kernel
    obtain ⟨_, arrived, -⟩ := Engine.arriveAll_holds holds fresh (by decide +kernel)
    exact arrived.sound
  have listed : Exchange.sampleEngine.database.mutations =
      .ok (Exchange.samples.map (·.sent)) := by decide +kernel
  have policy : Exchange.sampleEngine.policy = ⟨2⟩ := by decide +kernel
  obtain ⟨e', report, run, matched⟩ := pass_matches_reference sound (by decide +kernel)
    (by decide +kernel) listed (by decide +kernel) .epoch
  rw [policy] at matched
  refine ⟨e', report, run, matched, ?_⟩
  rcases report with ⟨_, _, _, _, _⟩
  obtain ⟨-, rfl, rfl, rfl, rfl, rfl, -, -, -, -⟩ := matched
  decide +kernel

end Outbox
