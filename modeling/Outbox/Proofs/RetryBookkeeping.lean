import Outbox.Proofs.Launch
import Outbox.Proofs.Stock

/-!
# What a row says of past failures

The count, the latest error and the state of a queued mutation are those of the failures that the
remote side answered with since the mutation was queued. A pass counts on its own copy, which it
read when it began, and writes the result over the row when the answer is there. So the copy has
to say the same as the row, and it does unless the mutation is queued anew in between: a pass that
is in progress then still counts from the old number.

The invariant says the same of rows and of copies: each of them holds the tally of the failures
that its id had since it was queued last.
-/
namespace Outbox

open Table Time

/-! ## Tallies -/

/-- What a mutation keeps of its failures. -/
structure Tally where
  retries : Nat
  lastError : Option String
  state : DeliveryState

namespace RetryPolicy

/-- The state of a mutation that failed so often. -/
def mark (p : RetryPolicy) (retries : Nat) : DeliveryState :=
  if p.maxRetries ≤ retries then .exhausted else .pending

theorem mark_eq_exhausted_iff {p : RetryPolicy} {retries : Nat} :
    p.mark retries = .exhausted ↔ p.maxRetries ≤ retries := by
  unfold mark
  split
  next reached => exact ⟨fun _ => reached, fun _ => rfl⟩
  next below => exact ⟨fun h => (by cases h), fun reached => absurd reached below⟩

/-- What is kept of some failures, the latest first. The count stops at its largest value. -/
def tally (p : RetryPolicy) (failures : List String) : Tally where
  retries := min maxRetryCount failures.length
  lastError := failures.head?
  state := p.mark (min maxRetryCount failures.length)

end RetryPolicy

namespace Mutation

def tally (m : Mutation) : Tally := ⟨m.retries, m.lastError, m.state⟩

variable {p : RetryPolicy}

/-- A mutation that is queued, for the first time or anew, starts with no failures. -/
theorem tally_renewed (limit : 1 ≤ p.maxRetries) (m : Mutation) (now : Instant) :
    (m.renewed now).tally = p.tally [] := by
  have below : ¬ p.maxRetries ≤ 0 := by omega
  simp only [tally, renewed, RetryPolicy.tally, RetryPolicy.mark, List.length_nil, Nat.min_zero,
    if_neg below, List.head?_nil]

theorem tally_fresh (limit : 1 ≤ p.maxRetries) (c : Change) (now : Instant) :
    (c.fresh now).tally = p.tally [] :=
  tally_renewed limit (c.fresh now) now

/-- A failure that passes changes the tally only; below the limit the state is carried over. -/
theorem retained_eq (m : Mutation) (p : RetryPolicy) (error : String) :
    m.retained p error =
      { m with
        retries := min maxRetryCount (m.retries + 1)
        lastError := some error
        state := if p.maxRetries ≤ min maxRetryCount (m.retries + 1) then .exhausted
          else m.state } := by
  unfold retained recordFailure
  simp only
  split <;> rfl

/-- One more failure is counted on what the copy says. -/
theorem tally_retained {m : Mutation} {failures : List String} (kept : m.tally = p.tally failures)
    (error : String) : (m.retained p error).tally = p.tally (error :: failures) := by
  have retries : m.retries = min maxRetryCount failures.length := congrArg Tally.retries kept
  have state : m.state = p.mark m.retries := by
    rw [retries]
    exact congrArg Tally.state kept
  have counted : min maxRetryCount (m.retries + 1) =
      min maxRetryCount (error :: failures).length := by
    rw [retries, List.length_cons]
    omega
  have marked : (if p.maxRetries ≤ min maxRetryCount (m.retries + 1) then .exhausted
      else m.state) = p.mark (min maxRetryCount (m.retries + 1)) := by
    rw [state, RetryPolicy.mark, RetryPolicy.mark]
    split
    · rfl
    next below =>
      -- The state is carried over, and the mutation was below its limit before as well.
      have bound : m.retries ≤ maxRetryCount := retries ▸ Nat.min_le_left _ _
      exact if_neg (by omega)
  rw [retained_eq, tally]
  simp only [marked, RetryPolicy.tally, ← counted, List.head?_cons]

end Mutation

namespace Table.Row

/-- The last cells of a row of the queue hold a tally. -/
structure Holds (r : Row) (t : Tally) : Prop where
  retries : r.cell 6 = .integer t.retries
  lastError : r.cell 7 = .ofOption .text t.lastError
  state : r.cell 8 = .text t.state.name

theorem holds_toRow (number : Nat) (m : Mutation) : (Row.mk number m.toRow).Holds m.tally :=
  ⟨rfl, rfl, rfl⟩

/-- Writing a mutation back over a row leaves its tally there, whatever the row held. -/
theorem holds_overwrite {r : Row} (full : r.cell 8 ≠ .null) (m : Mutation) :
    (r.overwrite [6, 7, 8] m.toRow).Holds m.tally := by
  have long := Row.length_of_cell full
  constructor
  · exact Row.cell_overwrite_of_new rfl (by omega)
  · exact Row.cell_overwrite_of_new rfl (by omega)
  · exact Row.cell_overwrite_last full

theorem Holds.overwrite {r : Row} {t : Tally} (held : r.Holds t) (m : Mutation) :
    (r.overwrite [6, 7, 8] m.toRow).Holds m.tally :=
  holds_overwrite (by simp [held.state]) m

/-- What a row is read as has the tally that the row holds. -/
theorem Holds.tally_eq {r : Row} {t : Tally} {m : Mutation} (held : r.Holds t)
    (read : Mutation.ofRow r = .ok m) : m.tally = t := by
  obtain ⟨carries, state⟩ := Mutation.ofRow_eq_ok_iff.mp read
  have retries : m.retries = t.retries := by
    have same := Cell.integer.inj (carries.retries.symm.trans held.retries)
    exact Int.ofNat_inj.mp same
  have lastError : m.lastError = t.lastError := by
    have same := carries.lastError.symm.trans held.lastError
    cases h : m.lastError <;> cases h' : t.lastError <;> simp_all [Cell.ofOption]
  have named : m.state = t.state := by
    have same : m.state.name = t.state.name := Cell.text.inj (state.symm.trans held.state)
    have read := DeliveryState.ofName?_name m.state
    rw [same, DeliveryState.ofName?_name] at read
    exact (Option.some.inj read).symm
  rw [Mutation.tally, retries, lastError, named]

end Table.Row

/-! ## Failures since a mutation was queued -/

/-- What an occurrence adds to the failures of an id; an id that is queued starts anew. -/
def Occurrence.recount (id : String) (d : Occurrence) (failures : List String) : List String :=
  match d with
  | .queued c => if c.id = id then [] else failures
  | .requeued id' => if id' = id then [] else failures
  | .answered m (.failed (.transient reason)) =>
    if m.id = id then (Failure.transient reason).message :: failures else failures
  | _ => failures

/-- The texts of the failures for a while that an id had since it was queued last, the latest
first. -/
def failuresOf (id : String) (past : List Occurrence) : List String := past.foldr
    (Occurrence.recount id) []

@[simp] theorem failuresOf_cons (id : String) (d : Occurrence) (past : List Occurrence) :
    failuresOf id (d :: past) = d.recount id (failuresOf id past) := rfl

/-- What does not concern an id leaves its failures as they were. -/
theorem failuresOf_append {id : String} {done : List Occurrence} (past : List Occurrence)
    (other : ∀ d ∈ done, ∀ failures, d.recount id failures = failures) :
    failuresOf id (done ++ past) = failuresOf id past := by
  induction done with
  | nil => rfl
  | cons d done ih =>
    rw [List.cons_append, failuresOf_cons, other d List.mem_cons_self]
    exact ih fun d' member => other d' (List.mem_cons_of_mem _ member)

theorem Occurrence.recount_of_isTalk {d : Occurrence} (talk : d.isTalk = true) (id : String)
    (failures : List String) : d.recount id failures = failures := by
  cases d with
  | declined | unlisted | turned _ => rfl
  | _ => cases talk

theorem failuresOf_atEnd (id : String) (rest : List Mutation) (past : List Occurrence) :
    failuresOf id (Occurrence.atEnd rest ++ past) = failuresOf id past := by
  cases rest <;> rfl

/-! ## The invariant -/

/-- Every row of the queue and every copy in the pass holds the tally of the failures that its id
had since it was queued last. -/
structure RetryCounts (policy : RetryPolicy) (past : List Occurrence) (s : Stock) : Prop where
  rows : ∀ r ∈ s.queue, ∃ id, r.cell 0 = .text id ∧ r.Holds (policy.tally (failuresOf id past))
  copies : ∀ p, s.pass = some p → ∀ m ∈ p.current :: p.rest,
    m.tally = policy.tally (failuresOf m.id past)

namespace RetryCounts

variable {policy : RetryPolicy} {past done : List Occurrence} {s : Stock} {now : Instant}

/-- What concerns no id leaves the counts as they are. -/
theorem grow (counts : RetryCounts policy past s)
    (same : ∀ id, failuresOf id (done ++ past) = failuresOf id past) :
    RetryCounts policy (done ++ past) s := by
  constructor
  · intro r member
    obtain ⟨id, key, held⟩ := counts.rows r member
    exact ⟨id, key, (same id).symm ▸ held⟩
  · intro p waits m member
    rw [same]
    exact counts.copies p waits m member

/-- Rows may go away at any time. -/
theorem fewer (counts : RetryCounts policy past s) {rows letters : List Row}
    (part : ∀ r ∈ rows, r ∈ s.queue) :
    RetryCounts policy past { s with queue := rows, letters := letters } :=
  ⟨fun r member => counts.rows r (part r member), counts.copies⟩

/-- A mutation that is queued starts with no failures. The pass in progress must not count for it,
or it would write the old number over the new row. -/
theorem add (counts : RetryCounts policy past s) {id : String} {m : Mutation} {d : Occurrence}
    {letters : List Row} (same : m.id = id) (anew : m.tally = policy.tally [])
    (starts : ∀ id' failures, d.recount id' failures = if id = id' then [] else failures)
    (fresh : .text id ∉ keysOf s.queue) (apart : ∀ p, s.pass = some p → id ∉ p.ids) :
    RetryCounts policy (d :: past)
      { s with queue := added s.queue m.toRow, letters := letters } := by
  constructor
  · refine forall_added (fun r member => ?_) fun number => ⟨m.id, rfl, ?_⟩
    · obtain ⟨id', key, held⟩ := counts.rows r member
      have other : id ≠ id' := by
        rintro rfl
        exact fresh (mem_keysOf.mpr ⟨r, member, key⟩)
      refine ⟨id', key, ?_⟩
      rw [failuresOf_cons, starts, if_neg other]
      exact held
    · rw [failuresOf_cons, starts, if_pos same.symm, ← anew]
      exact Row.holds_toRow number m
  · intro p waits q member
    have other : id ≠ q.id := by
      rintro rfl
      exact apart p waits (List.mem_map_of_mem member)
    rw [failuresOf_cons, starts, if_neg other]
    exact counts.copies p waits q member

/-- A pass that begins copies what the rows say. -/
theorem copied (counts : RetryCounts policy past s) {queued : List Mutation}
    (listed : (sortRows (rowLE [5]) s.queue).mapM Mutation.ofRow = .ok queued) :
    ∀ m ∈ queued, m.tally = policy.tally (failuresOf m.id past) := by
  intro m member
  obtain ⟨r, present, read⟩ := exists_of_mem_mapM listed member
  obtain ⟨id, key, held⟩ := counts.rows r ((sortRows_perm _ s.queue).mem_iff.mp present)
  have same : m.id = id := (Mutation.ofRow_eq_ok_iff.mp read).1.id_eq key
  rw [same]
  exact held.tally_eq read

theorem continued {rest : List Mutation} (counts : RetryCounts policy past { s with pass := none })
    (copies : ∀ m ∈ rest, m.tally = policy.tally (failuresOf m.id past)) (report : Report) :
    RetryCounts policy past (s.continued rest report) := by
  constructor
  · rw [Stock.continued_queue]
    exact counts.rows
  · intro p waits
    rw [Stock.continued_pass waits]
    exact copies

/-- An answer takes effect in the row of its mutation as it is counted, and in no other row. -/
theorem settled (counts : RetryCounts policy past s) {p : Pass} (waits : s.pass = some p)
    {a : Answer}
    (orderly : a ≠ .panicked) :
    ∀ r ∈ (s.settled policy p.current now a).queue, ∃ id, r.cell 0 = .text id ∧
      r.Holds (policy.tally (failuresOf id (.answered p.current a :: past))) := by
  rcases a with _ | ⟨reason | ⟨status, reason⟩⟩ | _
  · exact fun r member => counts.rows r (List.mem_of_mem_filter member)
  · intro r member
    obtain ⟨before, present, rfl⟩ := List.mem_map.mp member
    obtain ⟨id, key, held⟩ := counts.rows before present
    have copy := counts.copies p waits p.current List.mem_cons_self
    by_cases same : p.current.id = id
    · -- The copy is written over its row, and it counts on from what the row says.
      have keyed : before.hasKey p.current.id = true := Row.hasKey_iff.mpr (same ▸ key)
      rw [if_pos keyed]
      refine ⟨id, (Mutation.cell_overwrite _ before _ (by decide)).trans key, ?_⟩
      rw [failuresOf_cons, Occurrence.recount, if_pos same, ← same, ← Mutation.tally_retained copy]
      exact held.overwrite _
    · have unkeyed : ¬ before.hasKey p.current.id = true := fun keyed =>
        same (Cell.text.inj ((Row.hasKey_iff.mp keyed).symm.trans key))
      rw [if_neg unkeyed]
      refine ⟨id, key, ?_⟩
      rw [failuresOf_cons, Occurrence.recount, if_neg same]
      exact held
  · exact fun r member => counts.rows r (List.mem_of_mem_filter member)
  · exact absurd rfl orderly

/-- The copies behind the one that was answered are of other ids. -/
theorem behind (counts : RetryCounts policy past s) (distinct : s.Distinct) {p : Pass}
    (waits : s.pass = some p) (a : Answer) :
    ∀ m ∈ p.rest, m.tally = policy.tally (failuresOf m.id (.answered p.current a :: past)) := by
  intro m member
  have once : p.current.id ∉ p.rest.map (·.id) :=
    (List.nodup_cons.mp (distinct.pass p waits)).1
  have other : p.current.id ≠ m.id := fun same => once (same ▸ List.mem_map_of_mem member)
  have untouched : failuresOf m.id (.answered p.current a :: past) = failuresOf m.id past := by
    rcases a with _ | ⟨_ | _⟩ | _
    · rfl
    · exact if_neg other
    · rfl
    · rfl
  rw [untouched]
  exact counts.copies p waits m (List.mem_cons_of_mem _ member)

end RetryCounts

/-- Every move keeps the counts, as long as nothing gets queued while the pass in progress has a
copy of it. -/
theorem Shift.counts {policy : RetryPolicy} {now : Instant} {past done : List Occurrence}
    {s t : Stock}
    (shift : Shift policy now s done t) (limit : 1 ≤ policy.maxRetries) (distinct : s.Distinct)
    (new : ∀ c, .queued c ∈ done → ∀ p, s.pass = some p → c.id ∉ p.ids)
    (steady : ∀ id, .requeued id ∈ done → ∀ p, s.pass = some p → id ∉ p.ids)
    (counts : RetryCounts policy past s) : RetryCounts policy (done ++ past) t := by
  cases shift with
  | quiet talk =>
    exact counts.grow fun id => failuresOf_append past fun d member =>
      Occurrence.recount_of_isTalk (talk d member) id
  | @queue c fresh =>
    -- The id is new, so the pass in progress has no copy that counts for it.
    have same : (c.fresh now).id = c.id := rfl
    refine counts.add same (Mutation.tally_fresh limit c now) (fun _ _ => rfl) fresh ?_
    exact new c List.mem_cons_self
  | remove present => exact (counts.fewer fun _ => List.mem_of_mem_filter).grow fun _ => rfl
  | clear =>
    refine (counts.fewer fun _ none => by cases none).grow fun id => ?_
    refine failuresOf_append past fun d member failures => ?_
    obtain ⟨_, -, rfl⟩ := List.mem_map.mp member
    rfl
  | bury found read => exact counts.fewer fun _ => List.mem_of_mem_filter
  | @revive id r l found read fresh =>
    have same : l.mutation.id = id := DeadLetter.id_of_found found read
    refine counts.add same (Mutation.tally_renewed limit _ now) (fun _ _ => rfl) (same ▸ fresh) ?_
    exact steady id List.mem_cons_self
  | discard present => exact (counts.fewer fun _ member => member).grow fun _ => rfl
  | @start queued idle listed =>
    have same (id : String) :
        failuresOf id (Occurrence.atEnd queued ++ [.began] ++ past) = failuresOf id past := by
      rw [List.append_assoc, failuresOf_atEnd]
      rfl
    -- The copies are read from the rows, so they say the same.
    have grown := counts.grow same
    exact RetryCounts.continued ⟨grown.rows, fun p none => by cases none⟩ (grown.copied listed)
      .empty
  | @settle p a report waits orderly =>
    have same (id : String) :
        failuresOf id (Occurrence.atEnd p.rest ++ [.answered p.current a] ++ past) =
        failuresOf id (.answered p.current a :: past) := by
      rw [List.append_assoc, failuresOf_atEnd]
      rfl
    refine RetryCounts.continued ⟨?_, fun p none => by cases none⟩ ?_ report
    · simp only [same]
      exact counts.settled waits orderly
    · simp only [same]
      exact counts.behind distinct waits a
  | @panic p waits =>
    have grown : RetryCounts policy ([.ended, .answered p.current .panicked] ++ past) s :=
      counts.grow fun _ => rfl
    exact ⟨grown.rows, fun p none => by cases none⟩

/-! ## Runs -/

namespace Session

/-- A change gets an id that is not taken, and nothing is queued anew while the pass in progress has
a copy of it that is still to be answered. -/
def Steady (s : Session) (now : Instant) (move : Move) : Prop :=
  s.NewId move ∧
    ∀ p ∈ s.engine.pass, ∀ id ∈ p.ids, .requeued id ∉ (s.engine.perform now move).2

instance (s : Session) (now : Instant) (move : Move) : Decidable (s.Steady now move) :=
  inferInstanceAs (Decidable (s.NewId move ∧
    ∀ p ∈ s.engine.pass, ∀ id ∈ p.ids, .requeued id ∉ (s.engine.perform now move).2))

/-- A session whose counts are in order. -/
structure RetriesCounted (policy : RetryPolicy) (s : Session) : Prop where
  sound : s.engine.view.Sound
  sameLimit : s.engine.view.policy = policy
  distinct : s.engine.view.stock.Distinct
  counts : RetryCounts policy s.past s.engine.view.stock

theorem RetriesCounted.after {policy : RetryPolicy} {s : Session} (kept : RetriesCounted policy s)
    (limit : 1 ≤ policy.maxRetries) {now : Instant} {move : Move} (ok : s.Steady now move) :
    RetriesCounted policy (s.after now move) := by
  have moved := after_moved kept.sound now ok.1.isFresh
  have shift := moved.shift
  rw [kept.sameLimit] at shift
  refine ⟨moved.sound kept.sound, moved.policy.trans kept.sameLimit,
    shift.distinct kept.distinct, ?_⟩
  refine shift.counts limit kept.distinct (fun c queued p waits => ?_)
    (fun id requeued p waits => ?_)
    kept.counts
  · intro taken
    exact ok.1 c (Engine.change_of_queued queued) (taken_of_pass waits taken)
  · intro taken
    exact ok.2 p waits id taken requeued

theorem RetriesCounted.of_run {policy : RetryPolicy} {s t : Session}
    (kept : RetriesCounted policy s)
    (limit : 1 ≤ policy.maxRetries) (run : Run Steady s t) : RetriesCounted policy t := by
  induction run with
  | refl => exact kept
  | step _ ok ih => exact ih.after limit ok

/-- Before anything was queued there is nothing to be counted. -/
theorem RetriesCounted.start {e : Engine} (sound : e.view.Sound) (empty : e.view.queueRows = [])
    (idle : e.isProcessing = false) (clock : Instant) :
    RetriesCounted e.policy ⟨e, [], clock⟩ := by
  have queue : e.view.stock.queue = [] := empty
  have pass : e.view.stock.pass = none := Engine.isProcessing_eq_false_iff.mp idle
  refine ⟨sound, rfl, ⟨?_, fun p waits => ?_⟩, ⟨fun r member => ?_, fun p waits => ?_⟩⟩
  · rw [queue]
    exact List.nodup_nil
  · rw [pass] at waits
    cases waits
  · rw [queue] at member
    cases member
  · rw [pass] at waits
    cases waits

end Session

/-- In every state of every run that starts with an empty queue, each row of the queue holds exactly
what its id has been through since it was queued last: how often the remote side answered with a
failure for a while, the text of the latest of these, and the mark of having reached the limit. -/
theorem rows_count_failures {e : Engine} (sound : e.view.Sound) (empty : e.view.queueRows = [])
    (idle : e.isProcessing = false) (limit : 1 ≤ e.policy.maxRetries) {clock : Instant}
    {s : Session} (run : Session.Run Session.Steady ⟨e, [], clock⟩ s) :
    ∀ r ∈ s.engine.view.queueRows, ∃ id, r.cell 0 = .text id ∧
      let count := min maxRetryCount (failuresOf id s.past).length
      r.cell 6 = .integer count ∧
      r.cell 7 = .ofOption .text (failuresOf id s.past).head? ∧
      ∃ state : DeliveryState, r.cell 8 = .text state.name ∧
        (state = .exhausted ↔ e.policy.maxRetries ≤ count) := by
  intro r member
  have kept := (Session.RetriesCounted.start sound empty idle clock).of_run limit run
  obtain ⟨id, key, held⟩ := kept.counts.rows r member
  exact ⟨id, key, held.retries, held.lastError, _, held.state, RetryPolicy.mark_eq_exhausted_iff⟩

namespace Session

def sampleCounted : Change := ⟨"m1", .update, .incidents, "i1", .obj [("open", .bool true)]⟩

/-- A mutation fails twice, is given up and queued anew by hand, and fails twice again. -/
def sampleExhausted : Session :=
  (⟨Engine.inMemory ⟨2⟩ true, [], .epoch⟩ : Session).through
    [.enqueue sampleCounted, .process, .answer (.failed (.transient "HTTP 500")),
      .process, .answer (.failed (.transient "HTTP 501")), .deadLetter "m1", .requeue "m1",
      .process, .answer (.failed (.transient "HTTP 502")),
      .process, .answer (.failed (.transient "HTTP 503"))]

end Session

/-- The theorem at a mutation that reached its limit a second time. -/
theorem renewed_row_counts_anew :
    (failuresOf "m1" Session.sampleExhausted.past =
      ["transient: HTTP 503", "transient: HTTP 502"]) ∧
    ∃ r ∈ Session.sampleExhausted.engine.view.queueRows,
      r.cell 6 = .integer 2 ∧ r.cell 7 = .text "transient: HTTP 503" ∧
        r.cell 8 = .text "exhausted" := by
  have failures : failuresOf "m1" Session.sampleExhausted.past =
      ["transient: HTTP 503", "transient: HTTP 502"] := by decide +kernel
  have keys : keysOf Session.sampleExhausted.engine.view.queueRows = [.text "m1"] := by
    decide +kernel
  obtain ⟨r, member, key⟩ := mem_keysOf.mp (show .text "m1" ∈ keysOf _ from
    keys ▸ List.mem_singleton_self _)
  obtain ⟨id, key', retries, lastError, state, named, reached⟩ :=
    rows_count_failures (Engine.inMemory_sound ⟨2⟩ true) (by decide +kernel) (by decide +kernel)
      (by decide) (s := Session.sampleExhausted) (.through .refl (by decide +kernel)) r member
  obtain rfl : "m1" = id := Cell.text.inj (key.symm.trans key')
  rw [failures] at retries lastError reached
  obtain rfl : state = .exhausted := reached.mpr (by decide)
  exact ⟨failures, r, member, retries, lastError, named⟩

end Outbox
