import Outbox.Proofs.Runs

/-!
# Where mutations are

The stock of an engine is what mutations are in: the queue, the dead letters, the pass in progress,
and what was handed to the remote side. `Shift` lists all that a move can do to the stock and the
occurrences that tell it; invariants of runs are proved from its cases and from nothing else.
-/
namespace Outbox

open Table Time

/-! ## Ids -/

theorem mem_idsOf {rows : List Row} {id : String} : id ∈ idsOf rows ↔ .text id ∈ keysOf rows := by
  rw [idsOf, List.mem_filterMap]
  constructor
  · rintro ⟨c, member, same⟩
    cases c with
    | text s =>
      cases same
      exact member
    | _ => cases same
  · exact fun member => ⟨_, member, rfl⟩

theorem idsOf_added {rows : List Row} {id : String} {cells : List Cell}
    (key : cells[0]? = some (.text id)) : idsOf (added rows cells) = idsOf rows ++ [id] := by
  rw [idsOf, keysOf_added, key, Option.getD_some, List.filterMap_append]
  rfl

theorem idsOf_perm {rows more : List Row} (same : rows.Perm more) :
    (idsOf rows).Perm (idsOf more) :=
  (same.map _).filterMap _

theorem idsOf_sublist {rows more : List Row} (part : rows.Sublist more) :
    (idsOf rows).Sublist (idsOf more) :=
  (part.map _).filterMap _

/-- Rows that can be read have the ids of what they are read as. -/
theorem idsOf_of_listed {rows : List Row} {queued : List Mutation}
    (listed : rows.mapM Mutation.ofRow = .ok queued) : idsOf rows = queued.map (·.id) := by
  have each := mapM_eq_ok_iff.mp listed
  clear listed
  induction each with
  | nil => rfl
  | cons read _ ih =>
    have key := (Mutation.ofRow_eq_ok_iff.mp read).1.id
    simp only [idsOf, keysOf, List.map_cons, key]
    rw [← ih]
    rfl

/-- Rows that can be read hold a time. -/
theorem timed_of_read {rows sorted : List Row} {queued : List Mutation} (same : sorted.Perm rows)
    (read : sorted.mapM Mutation.ofRow = .ok queued) : Timed rows := by
  intro r member
  obtain ⟨m, -, read⟩ := ok_of_mem_mapM read (same.mem_iff.mpr member)
  obtain ⟨ms, time, -⟩ := (Mutation.ofRow_eq_ok_iff.mp read).1.enqueuedAt
  exact ⟨ms, time⟩

/-- The queue is listed by time. -/
theorem listed_iff_byTime {rows : List Row} {queued : List Mutation} :
    (sortRows (rowLE [5]) rows).mapM Mutation.ofRow = .ok queued ↔
      (byTime rows).mapM Mutation.ofRow = .ok queued := by
  constructor
  · intro listed
    rwa [sortRows_eq_byTime (timed_of_read (sortRows_perm _ rows) listed)] at listed
  · intro listed
    rwa [sortRows_eq_byTime (timed_of_read (byTime_perm rows) listed)]

/-- The queue is listed completely. -/
theorem mem_listed_iff {rows : List Row} {queued : List Mutation}
    (listed : (sortRows (rowLE [5]) rows).mapM Mutation.ofRow = .ok queued) {id : String} :
    id ∈ queued.map (·.id) ↔ .text id ∈ keysOf rows := by
  rw [← idsOf_of_listed listed, mem_idsOf]
  exact ((sortRows_perm _ rows).map (·.cell 0)).mem_iff

/-- What a pass has still to do, in its order. -/
def Pass.ids (p : Pass) : List String := (p.current :: p.rest).map (·.id)

/-! ## Stocks -/

structure Stock where
  queue : List Row
  letters : List Row
  pass : Option Pass
  deliveries : List Mutation

def View.stock (v : View) : Stock := ⟨v.queueRows, v.letterRows, v.pass, v.deliveries⟩

namespace Stock

/-- A pass goes on with the next mutation, or ends. -/
def continued (s : Stock) (rest : List Mutation) (report : Report) : Stock :=
  match rest with
  | [] => { s with pass := none }
  | m :: rest =>
    { s with
      pass := some ⟨m, rest, { report with attempted := report.attempted + 1 }⟩
      deliveries := s.deliveries ++ [m] }

theorem continued_pass {s : Stock} {rest : List Mutation} {report : Report} {p : Pass}
    (waits : (s.continued rest report).pass = some p) : p.current :: p.rest = rest := by
  cases rest with
  | nil => cases waits
  | cons m rest =>
    cases waits
    rfl

/-- Whatever pass was in progress before, it is over. -/
theorem continued_of_pass (s : Stock) (p : Option Pass) (rest : List Mutation) (report : Report) :
    ({ s with pass := p } : Stock).continued rest report = s.continued rest report := by
  cases rest <;> rfl

@[simp] theorem continued_queue (s : Stock) (rest : List Mutation) (report : Report) :
    (s.continued rest report).queue = s.queue := by
  cases rest <;> rfl

@[simp] theorem continued_letters (s : Stock) (rest : List Mutation) (report : Report) :
    (s.continued rest report).letters = s.letters := by
  cases rest <;> rfl

/-- A pass that goes on sends the first one of what is left. -/
theorem continued_deliveries (s : Stock) (rest : List Mutation) (report : Report) :
    (s.continued rest report).deliveries = s.deliveries ++ rest.head?.toList := by
  cases rest with
  | nil => exact (List.append_nil _).symm
  | cons m rest => rfl

/-- A mutation becomes a dead letter. -/
def buried (s : Stock) (l : DeadLetter) : Stock :=
  { s with
    queue := without l.mutation.id s.queue
    letters := upserted [6, 7, 8] l.mutation.id l.toRow s.letters }

/-- What an answer does in the store. -/
def settled (s : Stock) (policy : RetryPolicy) (m : Mutation) (now : Instant) : Answer → Stock
  | .confirmed => { s with queue := without m.id s.queue }
  | .failed (.transient reason) =>
    { s with
      queue := replaced [6, 7, 8] m.id
        (m.retained policy (Failure.transient reason).message).toRow s.queue }
  | .failed (.permanent status reason) =>
    s.buried ⟨m.recordFailure (Failure.permanent status reason).message, now⟩
  | .panicked => s

@[simp] theorem settled_deliveries (s : Stock) (policy : RetryPolicy) (m : Mutation)
    (now : Instant) (a : Answer) : (s.settled policy m now a).deliveries = s.deliveries := by
  rcases a with _ | ⟨_ | _⟩ | _ <;> rfl

/-- What an answer leaves in the queue was there before; the mutation that was answered stays only
when it failed for a while. -/
theorem mem_keysOf_settled {s : Stock} {policy : RetryPolicy} {m : Mutation} {now : Instant}
    {a : Answer} (orderly : a ≠ .panicked) {id : String}
    (left : .text id ∈ keysOf (s.settled policy m now a).queue) :
    .text id ∈ keysOf s.queue ∧ (m.id = id → ∃ reason, a = .failed (.transient reason)) := by
  rcases a with _ | ⟨reason | ⟨status, reason⟩⟩ | _
  · obtain ⟨before, other⟩ := mem_keysOf_without.mp left
    exact ⟨before, fun same => absurd (congrArg Cell.text same).symm other⟩
  · rw [settled, Mutation.keysOf_replaced] at left
    exact ⟨left, fun _ => ⟨reason, rfl⟩⟩
  · obtain ⟨before, other⟩ := mem_keysOf_without.mp left
    exact ⟨before, fun same => absurd (congrArg Cell.text same).symm other⟩
  · exact absurd rfl orderly

/-- An answer makes a dead letter of nothing but the mutation that it refuses. -/
theorem mem_keysOf_settled_letters {s : Stock} {policy : RetryPolicy} {m : Mutation}
    {now : Instant} {a : Answer} {id : String}
    (left : .text id ∈ keysOf (s.settled policy m now a).letters) :
    .text id ∈ keysOf s.letters ∨
      m.id = id ∧ ∃ status reason, a = .failed (.permanent status reason) := by
  rcases a with _ | ⟨reason | ⟨status, reason⟩⟩ | _
  · exact .inl left
  · exact .inl left
  · refine ((mem_keysOf_upserted rfl rfl).mp left).imp_right fun same => ?_
    exact ⟨(Cell.text.inj same).symm, status, reason, rfl⟩
  · exact .inl left

end Stock

/-- An occurrence that leaves the stock alone. -/
def Occurrence.isTalk : Occurrence → Bool
  | .declined | .unlisted | .turned _ => true
  | _ => false

/-- The end of a pass that has nothing left to try. -/
def Occurrence.atEnd : List Mutation → List Occurrence
  | [] => [.ended]
  | _ :: _ => []

@[simp] theorem Occurrence.mem_atEnd {d : Occurrence} {rest : List Mutation} :
    d ∈ atEnd rest ↔ d = .ended ∧ rest = [] := by
  cases rest <;> simp [atEnd]

/-- What holds of the end of a pass holds of all that is told there. -/
theorem Occurrence.forall_atEnd {P : Occurrence → Prop} (ending : P .ended) (rest : List Mutation) :
    ∀ d ∈ atEnd rest, P d := by
  intro d member
  rw [(mem_atEnd.mp member).1]
  exact ending

theorem Occurrence.ofOutcome_outcomeAfter (queued : List Mutation) :
    ofOutcome (outcomeAfter queued .empty) = atEnd queued ++ [.began] := by
  cases queued <;> rfl

theorem Occurrence.ending_outcomeAfter (rest : List Mutation) (report : Report) (d : Occurrence) :
    (if (outcomeAfter rest report).isSome then [.ended, d] else [d]) = atEnd rest ++ [d] := by
  cases rest <;> rfl

/-- What a move can do to the stock, with the occurrences that tell it. -/
inductive Shift (policy : RetryPolicy) (now : Instant) : Stock → List Occurrence → Stock → Prop
  | quiet {s : Stock} {past : List Occurrence} (talk : ∀ d ∈ past, d.isTalk = true) :
    Shift policy now s past s
  | queue {s : Stock} {c : Change} (fresh : .text c.id ∉ keysOf s.queue) :
    Shift policy now s [.queued c] { s with queue := added s.queue (c.fresh now).toRow }
  | remove {s : Stock} {id : String} (present : .text id ∈ keysOf s.queue) :
    Shift policy now s [.removed id] { s with queue := without id s.queue }
  | clear {s : Stock} : Shift policy now s ((idsOf s.queue).map .removed) { s with queue := [] }
  | bury {s : Stock} {id : String} {r : Row} {m : Mutation}
    (found : s.queue.find? (·.hasKey id) = some r) (read : Mutation.ofRow r = .ok m) :
    Shift policy now s [] (s.buried ⟨m, now⟩)
  | revive {s : Stock} {id : String} {r : Row} {l : DeadLetter}
    (found : s.letters.find? (·.hasKey id) = some r) (read : DeadLetter.ofRow r = .ok l)
    (fresh : .text l.mutation.id ∉ keysOf s.queue) :
    Shift policy now s [.requeued id]
      { s with
        queue := added s.queue (l.mutation.renewed now).toRow
        letters := without id s.letters }
  | discard {s : Stock} {id : String} (present : .text id ∈ keysOf s.letters) :
    Shift policy now s [.removed id] { s with letters := without id s.letters }
  | start {s : Stock} {queued : List Mutation} (idle : s.pass = none)
    (listed : (sortRows (rowLE [5]) s.queue).mapM Mutation.ofRow = .ok queued) :
    Shift policy now s (Occurrence.atEnd queued ++ [.began]) (s.continued queued .empty)
  | settle {s : Stock} {p : Pass} {a : Answer} {report : Report}
    (waits : s.pass = some p) (orderly : a ≠ .panicked) :
    Shift policy now s (Occurrence.atEnd p.rest ++ [.answered p.current a])
      ((s.settled policy p.current now a).continued p.rest report)
  | panic {s : Stock} {p : Pass} (waits : s.pass = some p) :
    Shift policy now s [.ended, .answered p.current .panicked] { s with pass := none }

/-! ## Views and stocks -/

theorem without_of_absent {rows : List Row} {id : String} (absent : .text id ∉ keysOf rows) :
    without id rows = rows := by
  refine List.filter_eq_self.mpr fun r member => ?_
  have other : r.hasKey id = false := by
    rw [← Bool.not_eq_true, Row.hasKey_iff]
    exact fun same => absent (mem_keysOf.mpr ⟨r, member, same⟩)
  rw [other]
  rfl

namespace View

@[simp] theorem stock_told (v : View) : v.told.stock = v.stock := by
  rw [told_eq]
  rfl

theorem stock_withQueue (v : View) (rows : List Row) :
    (v.withQueue rows).stock = { v.stock with queue := rows } := by
  simp only [stock, withQueue, withDatabase, queueRows, letterRows, Database.rowsOf_withRows_self]
  rw [Database.rowsOf_withRows_of_ne _ (show TableName.deadLetters ≠ .queue by simp)]

theorem stock_withLetters (v : View) (rows : List Row) :
    (v.withLetters rows).stock = { v.stock with letters := rows } := by
  simp only [stock, withLetters, withDatabase, queueRows, letterRows,
    Database.rowsOf_withRows_self]
  rw [Database.rowsOf_withRows_of_ne _ (show TableName.queue ≠ .deadLetters by simp)]

/-- Local copies are no part of the stock. -/
theorem stock_withCopies (v : View) (kind : EntityKind) (rows : List Row) :
    (v.withDatabase (v.database.withRows (.collection kind) rows)).stock = v.stock := by
  simp only [stock, withDatabase, queueRows, letterRows]
  rw [Database.rowsOf_withRows_of_ne _ (show TableName.queue ≠ .collection kind by simp),
    Database.rowsOf_withRows_of_ne _ (show TableName.deadLetters ≠ .collection kind by simp)]

theorem stock_buried (v : View) (l : DeadLetter) :
    (v.withDatabase (v.database.buried l)).stock = v.stock.buried l := by
  change ((v.withLetters (upserted [6, 7, 8] l.mutation.id l.toRow v.letterRows)).withQueue
    (without l.mutation.id v.queueRows)).stock = _
  rw [stock_withQueue, stock_withLetters]
  rfl

theorem stock_revived (v : View) (id : String) (m : Mutation) :
    (v.withDatabase (v.database.revived id m)).stock =
      { v.stock with
        queue := added v.queueRows m.toRow
        letters := without id v.letterRows } := by
  change ((v.withLetters (without id v.letterRows)).withQueue
    (added v.queueRows m.toRow)).stock = _
  rw [stock_withQueue, stock_withLetters]

theorem stock_continued (v : View) (rest : List Mutation) (report : Report) :
    (v.continued rest report).stock = v.stock.continued rest report := by
  cases rest <;> rfl

theorem stock_settled (v : View) (m : Mutation) (now : Instant) (a : Answer) :
    (v.settled m now a).stock = v.stock.settled v.policy m now a := by
  rcases a with _ | ⟨_ | _⟩ | _
  · exact stock_withQueue _ _
  · exact stock_withQueue _ _
  · exact stock_buried _ _
  · rfl

end View

/-! ## Moves and shifts -/

namespace Occurrence

theorem isTalk_ofReports (online : Bool) (reports : List (Received NetworkStatus)) :
    ∀ d ∈ ofReports online reports, d.isTalk = true := by
  induction reports generalizing online with
  | nil => simp [ofReports]
  | cons report reports ih =>
    cases report with
    | message status =>
      intro d member
      rcases List.mem_append.mp member with earlier | latest
      · exact ih _ d earlier
      · split at latest
        · cases latest
        · rw [List.mem_singleton.mp latest]
          rfl
    | lagged _ => exact ih online

end Occurrence

namespace Move

/-- A change gets an id that is not taken in the queue. -/
def IsFresh (queue : List Row) (move : Move) : Prop :=
  ∀ c ∈ move.change?, .text c.id ∉ keysOf queue

/-- Neither the network turns nor a task gets its turn. -/
def IsDirect : Move → Prop
  | .setOnline _ | .run _ => False
  | _ => True

end Move

/-- An engine after a move: the stock was shifted, and the store is as sound as before. -/
structure View.Moved (now : Instant) (v : View) (past : List Occurrence) (w : View) : Prop where
  shift : Shift v.policy now v.stock past w.stock
  policy : w.policy = v.policy
  link : w.link = v.link
  healthy : w.database.Healthy

/-- A move that lets the network be, and no task that is ready is lost. -/
structure View.Acted (now : Instant) (v : View) (past : List Occurrence) (w : View) : Prop
    extends Moved now v past w where
  monitor : w.monitor = v.monitor
  connectivity : w.connectivity = v.connectivity
  tasks : ∀ t ∈ v.tasks, t ∈ w.tasks
  silent : ∀ online, .turned online ∉ past

namespace View

variable {v w : View} {now : Instant}

theorem Moved.sound {past : List Occurrence} (moved : Moved now v past w) (s : v.Sound) : w.Sound :=
  ⟨moved.link ▸ s.isOpen, moved.healthy⟩

/-- What only talks, or wakes tasks, moves nothing. -/
theorem Moved.quiet (s : v.Sound) {past : List Occurrence} (talk : ∀ d ∈ past, d.isTalk = true)
    (stock : w.stock = v.stock) (policy : w.policy = v.policy) (link : w.link = v.link)
    (database : w.database = v.database) : Moved now v past w :=
  ⟨stock ▸ .quiet talk, policy, link, database ▸ s.healthy⟩

theorem Acted.quiet (s : v.Sound) {past : List Occurrence} (talk : ∀ d ∈ past, d.isTalk = true)
    (silent : ∀ online, .turned online ∉ past) : Acted now v past v :=
  ⟨.quiet s talk rfl rfl rfl rfl, rfl, rfl, fun _ h => h, silent⟩

theorem Acted.told {past : List Occurrence} (acted : Acted now v past w) :
    Acted now v past w.told where
  shift := w.stock_told ▸ acted.shift
  policy := w.told_policy ▸ acted.policy
  link := w.told_link ▸ acted.link
  healthy := w.told_database ▸ acted.healthy
  monitor := by rw [told_monitor, acted.monitor]
  connectivity := by rw [told_connectivity, acted.connectivity]
  tasks t ready := mem_told_tasks (acted.tasks t ready)
  silent := acted.silent

end View

namespace Engine

variable {e : Engine}

theorem startPass_acts (s : e.view.Sound) (now : Instant) :
    ∃ e' outcome, e.startPass now = (e', outcome) ∧
      e.view.Acted now (Occurrence.ofOutcome outcome) e'.view ∧
      ∀ reason, outcome = some (.skipped reason) → e' = e := by
  rcases startPass_cases s now with
    ⟨reason, run⟩ | ⟨e', fault, run, same⟩ | ⟨e', queued, idle, listed, run, view⟩
  · exact ⟨_, _, run, .quiet s (by simp [Occurrence.ofOutcome]) (by simp [Occurrence.ofOutcome]),
      fun _ _ => rfl⟩
  · refine ⟨e', _, run, ?_, by simp⟩
    rw [same]
    exact .quiet s (by simp [Occurrence.ofOutcome, Occurrence.isTalk])
      (by simp [Occurrence.ofOutcome])
  · rw [s.healthy.mutations] at listed
    refine ⟨e', _, run, ?_, by cases queued <;> simp [outcomeAfter]⟩
    rw [Occurrence.ofOutcome_outcomeAfter, view]
    refine ⟨⟨e.view.stock_continued queued .empty ▸ .start idle listed,
      e.view.continued_policy queued .empty, e.view.continued_link queued .empty,
      (s.continued queued .empty).healthy⟩,
      e.view.continued_monitor queued .empty, e.view.continued_connectivity queued .empty,
      ?_, ?_⟩
    · rw [View.continued_tasks]
      exact fun _ h => h
    · simp

theorem answer_acts (s : e.view.Sound) {p : Pass} (waits : e.view.pass = some p) (a : Answer)
    (now : Instant) :
    ∃ e' outcome, e.answer a now = (e', outcome) ∧
      e.view.Acted now
        (if outcome.isSome then [.ended, .answered p.current a] else [.answered p.current a])
        e'.view := by
  -- A panic ends the pass on the spot; every other answer is written back, and the pass goes on.
  by_cases orderly : a = .panicked
  · subst orderly
    obtain ⟨e', run, view⟩ := answer_of_panicked waits now
    refine ⟨e', _, run, ?_⟩
    rw [view]
    exact ⟨⟨.panic waits, rfl, rfl, s.healthy⟩, rfl, rfl, fun _ h => h, by simp⟩
  · obtain ⟨e', run, view⟩ := answer_yields s waits orderly now
    refine ⟨e', _, run, ?_⟩
    rw [Occurrence.ending_outcomeAfter, view]
    refine ⟨⟨?_, ?_, ?_, ((s.settled p.current now a).continued p.rest _).healthy⟩,
      ?_, ?_, ?_, ?_⟩
    · rw [View.stock_continued, View.stock_settled]
      exact .settle waits orderly
    · rw [View.continued_policy, View.settled_policy]
    · rw [View.continued_link, View.settled_link]
    · rw [View.continued_monitor, View.settled_monitor]
    · rw [View.continued_connectivity, View.settled_connectivity]
    · rw [View.continued_tasks, View.settled_tasks]
      exact fun _ h => h
    · simp

/-- A pass in the background is a pass. -/
theorem drain_acts (s : e.view.Sound) (now : Instant) :
    e.view.Acted now (e.runTask now .drain).2 (e.runTask now .drain).1.view := by
  -- A pass in the background differs from one that was called for only in what it logs and tells.
  obtain ⟨e', outcome, run, acted, skipped⟩ := startPass_acts s now
  simp only [runTask, run]
  rcases outcome with _ | ⟨_ | _⟩ | _ | fault | _
  · exact acted
  · rw [skipped _ rfl]
    exact .quiet s (by simp [Occurrence.isTalk]) (by simp)
  · exact acted
  · exact acted
  · exact (view_log _ _).symm ▸ acted
  · exact acted

theorem runTask_moves (s : e.view.Sound) (now : Instant) (t : Task) :
    e.view.Moved now (e.runTask now t).2 (e.runTask now t).1.view := by
  cases t with
  | drain => exact (drain_acts s now).toMoved
  | connectivity =>
    simp only [runTask, view_runConnectivity]
    cases e.view.connectivity with
    | none => exact .quiet s (by simp) rfl rfl rfl rfl
    | some position =>
      simp only
      rw [View.heard_eq]
      exact .quiet s (by simp) rfl rfl rfl rfl
  | watch =>
    have talk := Occurrence.isTalk_ofReports e.isOnline e.reports
    simp only [runTask, view_runWatch]
    cases e.view.watch with
    | none => exact .quiet s talk rfl rfl rfl rfl
    | some position =>
      cases e.view.listener with
      | none => exact .quiet s talk rfl rfl rfl rfl
      | some listener =>
        simp only
        rw [View.carried_eq]
        exact .quiet s talk rfl rfl rfl rfl

/-- All that a move does that is not one of the network or of a task. -/
theorem perform_acts (s : e.view.Sound) (now : Instant) {move : Move}
    (fresh : move.IsFresh e.view.queueRows) (direct : move.IsDirect) :
    e.view.Acted now (e.perform now move).2 (e.perform now move).1.view := by
  cases move with
  | enqueue c =>
    obtain ⟨e', run, view⟩ := enqueue_yields s now (m := c.fresh now) (fresh c rfl)
    simp only [perform, run, tell, view]
    -- The requester is told last, which at most makes a task ready.
    refine .told ⟨⟨?_, rfl, rfl, (s.withQueue _).healthy⟩, rfl, rfl, fun _ h => h, by simp⟩
    rw [View.stock_withQueue]
    exact .queue (fresh c rfl)
  | mutate c =>
    obtain ⟨e', run, view⟩ := mutate_yields s now (m := c.fresh now) (fresh c rfl)
    simp only [perform, run, tell, view]
    refine .told ⟨⟨?_, rfl, rfl, ?_⟩, rfl, rfl, fun _ h => h, by simp⟩
    · -- The local copy changes in the same transaction, but it is no part of the stock.
      rw [View.stock_withQueue, View.stock_withCopies]
      exact .queue (fresh c rfl)
    · exact ((s.withDatabase (s.healthy.withRows _ _)).withQueue _).healthy
  | purge id =>
    obtain ⟨e', run, view⟩ := purge_yields s id now
    simp only [perform, run, tell, view]
    refine ⟨⟨?_, rfl, rfl, (s.withQueue _).healthy⟩, rfl, rfl, fun _ h => h, by split <;> simp⟩
    rw [View.stock_withQueue]
    cases found : e.view.queueRows.any (·.hasKey id) with
    | true => exact .remove (any_hasKey.mp found)
    | false =>
      -- Nothing has the id, so nothing is taken out.
      rw [without_of_absent (by rw [← any_hasKey, found]; simp)]
      exact .quiet (by simp)
  | clear =>
    obtain ⟨e', run, view⟩ := clear_yields s now
    simp only [perform, run, tell, view]
    refine ⟨⟨?_, rfl, rfl, (s.withQueue _).healthy⟩, rfl, rfl, fun _ h => h, by simp⟩
    rw [View.stock_withQueue]
    exact .clear
  | deadLetter id =>
    by_cases found : ∃ m, e.view.database.mutation? id = .ok (some m)
    · obtain ⟨m, found⟩ := found
      obtain ⟨e', run, view⟩ := deadLetter_yields s now found
      simp only [perform, run, tell, view]
      refine ⟨⟨?_, rfl, rfl, s.healthy.buried _⟩, rfl, rfl, fun _ h => h, by simp⟩
      rw [View.stock_buried]
      -- What is buried is what the row of the queue was read as.
      obtain ⟨r, present, read⟩ := s.healthy.mutation?_eq_some found
      exact .bury present read
    · obtain ⟨e', result, run, -, view⟩ := deadLetter_of_not_found s now (not_exists.mp found)
      cases result <;> simp only [perform, run, tell, view] <;>
        exact .quiet s (by simp) (by simp)
  | requeue id =>
    rcases requeue_cases s id now with
      ⟨e', r, l, found, read, untaken, run, view⟩ | ⟨e', result, run, none, view⟩
    · simp only [perform, run, tell, view, Option.isSome_some, if_true]
      refine .told ⟨⟨?_, rfl, rfl, s.healthy.revived _ _⟩, rfl, rfl, fun _ h => h, by simp⟩
      rw [View.stock_revived]
      exact .revive found read untaken
    · rcases result with fault | _ | m
      · simp only [perform, run, tell, view]
        exact .quiet s (by simp) (by simp)
      · simp only [perform, run, tell, view]
        exact .quiet s (by simp) (by simp)
      · exact absurd rfl (none m)
  | purgeDeadLetter id =>
    obtain ⟨e', run, view⟩ := purgeDeadLetter_yields s id now
    simp only [perform, run, tell, view]
    refine ⟨⟨?_, rfl, rfl, (s.withLetters _).healthy⟩, rfl, rfl, fun _ h => h, by split <;> simp⟩
    rw [View.stock_withLetters]
    cases found : e.view.letterRows.any (·.hasKey id) with
    | true => exact .discard (any_hasKey.mp found)
    | false =>
      rw [without_of_absent (by rw [← any_hasKey, found]; simp)]
      exact .quiet (by simp)
  | setOnline online => cases direct
  | push status =>
    simp only [perform, view_push]
    refine ⟨.quiet s (by simp) rfl rfl rfl rfl, rfl, rfl, fun t ready => ?_, by simp⟩
    split
    · exact mem_withTask_of_mem ready
    · exact ready
  | process =>
    obtain ⟨e', outcome, run, acted, -⟩ := startPass_acts s now
    simp only [perform, run]
    exact acted
  | answer a =>
    cases waits : e.pass with
    | none =>
      simp only [perform, inFlight, waits, Option.map_none]
      exact .quiet s (by simp) (by simp)
    | some p =>
      obtain ⟨e', outcome, run, acted⟩ := answer_acts s waits a now
      simp only [perform, inFlight, waits, Option.map_some, run]
      exact acted
  | run position => cases direct

/-- All that a move does to the stock. -/
theorem perform_moves (s : e.view.Sound) (now : Instant) {move : Move}
    (fresh : move.IsFresh e.view.queueRows) :
    e.view.Moved now (e.perform now move).2 (e.perform now move).1.view := by
  cases move with
  | setOnline online =>
    simp only [perform, view_setOnline]
    rw [View.turnedTo_eq]
    exact .quiet s (by split <;> simp [Occurrence.isTalk]) rfl rfl rfl rfl
  | run position =>
    simp only [perform]
    cases ready : e.tasks[position]? with
    | none => exact .quiet s (by simp) rfl rfl rfl rfl
    | some t =>
      -- The task leaves the ready ones first, which is no part of the stock.
      have left : ({ e with tasks := e.tasks.eraseIdx position } : Engine).view.Sound :=
        ⟨s.isOpen, s.healthy⟩
      have moved := runTask_moves left now t
      exact ⟨moved.shift, moved.policy, moved.link, moved.healthy⟩
  | _ => exact (perform_acts s now fresh trivial).toMoved

end Engine

/-! ## Sessions -/

/-- A change is queued by a shift of its own. -/
theorem Shift.queued_cases {policy : RetryPolicy} {now : Instant} {s t : Stock}
    {done : List Occurrence} (shift : Shift policy now s done t) :
    (∃ c, done = [.queued c] ∧ .text c.id ∉ keysOf s.queue ∧
      t = { s with queue := added s.queue (c.fresh now).toRow }) ∨ ∀ c, .queued c ∉ done := by
  cases shift with
  | queue fresh => exact .inl ⟨_, rfl, fresh, rfl⟩
  | quiet talk => exact .inr fun c member => by cases talk _ member
  | _ => exact .inr fun c => by simp

/-! ## Each id once -/

/-- No id is in the queue twice, and none is in the pass in progress twice. -/
structure Stock.Distinct (s : Stock) : Prop where
  queue : (idsOf s.queue).Nodup
  pass : ∀ p, s.pass = some p → p.ids.Nodup

theorem nodup_idsOf_added {rows : List Row} {id : String} {cells : List Cell}
    (once : (idsOf rows).Nodup) (key : cells[0]? = some (.text id))
    (fresh : .text id ∉ keysOf rows) : (idsOf (added rows cells)).Nodup := by
  rw [idsOf_added key]
  refine List.nodup_append.mpr ⟨once, List.nodup_singleton id, fun a member b last => ?_⟩
  rw [List.mem_singleton.mp last]
  rintro rfl
  exact fresh (mem_idsOf.mp member)

theorem nodup_idsOf_without {rows : List Row} (once : (idsOf rows).Nodup) (id : String) :
    (idsOf (without id rows)).Nodup :=
  once.sublist (idsOf_sublist List.filter_sublist)

theorem Stock.Distinct.settled {s : Stock} (distinct : s.Distinct) (policy : RetryPolicy)
    (m : Mutation) (now : Instant) (a : Answer) :
    (idsOf (s.settled policy m now a).queue).Nodup := by
  rcases a with _ | ⟨reason | ⟨status, reason⟩⟩ | _
  · exact nodup_idsOf_without distinct.queue _
  · rw [Stock.settled, idsOf, Mutation.keysOf_replaced]
    exact distinct.queue
  · exact nodup_idsOf_without distinct.queue _
  · exact distinct.queue

/-- The primary key of the queue is kept by every move, and a pass lists every key once. -/
theorem Shift.distinct {policy : RetryPolicy} {now : Instant} {s t : Stock} {done : List Occurrence}
    (shift : Shift policy now s done t) (distinct : s.Distinct) : t.Distinct := by
  cases shift with
  | quiet talk => exact distinct
  | queue fresh => exact ⟨nodup_idsOf_added distinct.queue rfl fresh, distinct.pass⟩
  | remove present => exact ⟨nodup_idsOf_without distinct.queue _, distinct.pass⟩
  | clear => exact ⟨List.nodup_nil, distinct.pass⟩
  | bury found read => exact ⟨nodup_idsOf_without distinct.queue _, distinct.pass⟩
  | revive found read fresh => exact ⟨nodup_idsOf_added distinct.queue rfl fresh, distinct.pass⟩
  | discard present => exact ⟨distinct.queue, distinct.pass⟩
  | start idle listed =>
    refine ⟨by rw [Stock.continued_queue]; exact distinct.queue, fun p waits => ?_⟩
    rw [Pass.ids, Stock.continued_pass waits, ← idsOf_of_listed (listed_iff_byTime.mp listed)]
    exact (idsOf_perm (byTime_perm s.queue)).nodup_iff.mpr distinct.queue
  | @settle p a report waits orderly =>
    refine ⟨?_, fun p' waits' => ?_⟩
    · rw [Stock.continued_queue]
      exact distinct.settled policy p.current now a
    · rw [Pass.ids, Stock.continued_pass waits']
      exact (List.nodup_cons.mp (distinct.pass p waits)).2
  | panic waits => exact ⟨distinct.queue, fun p none => by cases none⟩

namespace Session

variable {s : Session}

theorem past_after (s : Session) (now : Instant) (move : Move) :
    (s.after now move).past = (s.engine.perform now move).2 ++ s.past := rfl

/-- Ids that are taken: in a table, in the pass in progress, or given before. -/
def takenIds (s : Session) : List String :=
  idsOf s.engine.view.queueRows ++ idsOf s.engine.view.letterRows ++
    ((s.engine.pass.map Pass.ids).getD [] ++ s.past.filterMap fun
      | .queued c => some c.id
      | _ => none)

/-- Every change gets an id that is not taken. -/
def NewId (s : Session) (move : Move) : Prop := ∀ c ∈ move.change?, c.id ∉ s.takenIds

instance (s : Session) (move : Move) : Decidable (s.NewId move) :=
  inferInstanceAs (Decidable (∀ c ∈ move.change?, c.id ∉ s.takenIds))

theorem taken_of_queue {id : String}
    (taken : .text id ∈ keysOf s.engine.view.queueRows) : id ∈ s.takenIds := by
  simp only [takenIds, List.mem_append]
  exact .inl (.inl (mem_idsOf.mpr taken))

theorem taken_of_letters {id : String}
    (taken : .text id ∈ keysOf s.engine.view.letterRows) : id ∈ s.takenIds := by
  simp only [takenIds, List.mem_append]
  exact .inl (.inr (mem_idsOf.mpr taken))

theorem taken_of_pass {p : Pass} {id : String} (waits : s.engine.pass = some p)
    (taken : id ∈ p.ids) : id ∈ s.takenIds := by
  simp only [takenIds, List.mem_append, waits, Option.map_some, Option.getD_some]
  exact .inr (.inl taken)

theorem taken_of_queued {c : Change} (queued : .queued c ∈ s.past) :
    c.id ∈ s.takenIds := by
  simp only [takenIds, List.mem_append]
  exact .inr (.inr (List.mem_filterMap.mpr ⟨_, queued, rfl⟩))

theorem NewId.isFresh {move : Move} (new : s.NewId move) :
    move.IsFresh s.engine.view.queueRows := fun c queues taken =>
  new c queues (taken_of_queue taken)

/-- A move with a new id shifts the stock. -/
theorem after_moved (sound : s.engine.view.Sound) (now : Instant) {move : Move}
    (fresh : move.IsFresh s.engine.view.queueRows) :
    s.engine.view.Moved now (s.engine.perform now move).2 (s.after now move).engine.view :=
  Engine.perform_moves sound now fresh

/-- The store is sound, and no id is in the queue or in the pass twice. -/
structure Keyed (s : Session) : Prop where
  sound : s.engine.view.Sound
  distinct : s.engine.view.stock.Distinct

theorem Keyed.after {s : Session} (keyed : s.Keyed) (now : Instant) {move : Move}
    (new : s.NewId move) : (s.after now move).Keyed := by
  have moved := after_moved keyed.sound now new.isFresh
  exact ⟨moved.sound keyed.sound, moved.shift.distinct keyed.distinct⟩

theorem Keyed.of_run {s t : Session} (keyed : s.Keyed)
    (run : Run (fun s _ move => s.NewId move) s t) : t.Keyed := by
  induction run with
  | refl => exact keyed
  | step _ ok ih => exact ih.after _ ok

theorem Keyed.start {e : Engine} (sound : e.view.Sound) (once : (idsOf e.view.queueRows).Nodup)
    (idle : e.isProcessing = false) (clock : Instant) : Keyed ⟨e, [], clock⟩ := by
  have none : e.view.stock.pass = none := Engine.isProcessing_eq_false_iff.mp idle
  refine ⟨sound, once, fun p waits => ?_⟩
  rw [none] at waits
  cases waits

end Session

end Outbox
