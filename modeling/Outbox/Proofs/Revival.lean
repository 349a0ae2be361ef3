import Outbox.Proofs.QueueOrder
import Outbox.Proofs.Removal

/-!
# Given up and queued anew

A mutation that is given up by hand and queued anew at once is the same change as before, as if it
were queued for the first time: it is the last one of the queue, pending, with no failure and the
new time. Nothing else is moved by this. On the way the mutation is written into two tables and read
from both, so its payload has to be one that is read back as it was written.

Three invariants of runs carry this. The rows stand in the order in which they were queued, so the
new row is listed last; each id is in one table at most and there only once, so the row that leaves
is the one that comes, and the letter of it is a new one; and nothing but its payload can keep a row
from being read.
-/
namespace Outbox

open Table Time

/-! ## Rows that go and come -/

theorem upserted_of_absent {id : String} {rows : List Row} (absent : .text id ∉ keysOf rows)
    (positions : List Nat) (cells : List Cell) :
    upserted positions id cells rows = added rows cells := by
  have untaken : rows.any (·.hasKey id) = false := by
    rw [← Bool.not_eq_true, any_hasKey]
    exact absent
  rw [upserted, untaken]
  rfl

section Added

variable {id : String} {cells : List Cell} {rows : List Row} (absent : .text id ∉ keysOf rows)
  (key : cells[0]? = some (.text id))

include absent key

theorem find?_added_of_absent :
    (added rows cells).find? (·.hasKey id) = some ⟨(ofRows rows).nextNumber, cells⟩ := by
  have keyed : (Row.mk (ofRows rows).nextNumber cells).hasKey id = true := by
    rw [Row.hasKey_iff, Row.cell, key]
    rfl
  rw [added, List.find?_append, find?_hasKey_of_absent absent, Option.none_or,
    List.find?_cons_of_pos keyed]

/-- A new row that is taken out again leaves the rows as they were. -/
theorem without_added_of_absent : without id (added rows cells) = rows := by
  have keyed : (Row.mk (ofRows rows).nextNumber cells).hasKey id = true := by
    rw [Row.hasKey_iff, Row.cell, key]
    rfl
  have others : rows.filter (fun r => !r.hasKey id) = rows := without_of_absent absent
  simp [without, added, List.filter_append, others, keyed]

end Added

/-- Where no id is there twice, a row is found under its id. -/
theorem find?_hasKey_of_once {rows : List Row} {id : String} {r : Row}
    (once : (idsOf rows).Nodup) (member : r ∈ rows) (key : r.cell 0 = .text id) :
    rows.find? (·.hasKey id) = some r := by
  induction rows with
  | nil => cases member
  | cons first rest ih =>
    by_cases keyed : first.hasKey id = true
    · have ids : idsOf (first :: rest) = id :: idsOf rest := by
        simp [idsOf, keysOf, Row.hasKey_iff.mp keyed]
      rw [ids] at once
      rcases List.mem_cons.mp member with rfl | later
      · exact List.find?_cons_of_pos keyed
      · have again : id ∈ idsOf rest := mem_idsOf.mpr (mem_keysOf.mpr ⟨r, later, key⟩)
        exact absurd again (List.nodup_cons.mp once).1
    · rw [List.find?_cons_of_neg keyed]
      rcases List.mem_cons.mp member with rfl | later
      · exact absurd (Row.hasKey_iff.mpr key) keyed
      · exact ih (once.sublist (idsOf_sublist (List.sublist_cons_self _ _))) later

/-- Rows of which one leaves are read as before, or fail at the same row, as long as the one that
leaves is read itself. -/
theorem mapM_ofRow_without {rows : List Row} {id : String}
    (legible : ∀ r ∈ rows, r.hasKey id = true → ∃ m, Mutation.ofRow r = .ok m) :
    (without id rows).mapM Mutation.ofRow =
      (rows.mapM Mutation.ofRow).map fun queued => queued.filter (·.id != id) := by
  induction rows with
  | nil => rfl
  | cons r rest ih =>
    have step := ih fun r' member => legible r' (List.mem_cons_of_mem _ member)
    rw [List.mapM_cons]
    by_cases keyed : r.hasKey id = true
    · -- The row that leaves is read, so without it the reading fails no earlier and no later.
      obtain ⟨m, read⟩ := legible r List.mem_cons_self keyed
      have same : m.id = id :=
        (Mutation.ofRow_eq_ok_iff.mp read).1.id_eq (Row.hasKey_iff.mp keyed)
      have gone : without id (r :: rest) = without id rest := by simp [without, keyed]
      rw [gone, step, read]
      cases rest.mapM Mutation.ofRow with
      | error fault => rfl
      | ok queued => simp [Except.map, bind, Except.bind, pure, Except.pure, same]
    · have stays : without id (r :: rest) = r :: without id rest := by simp [without, keyed]
      rw [stays, List.mapM_cons, step]
      cases read : Mutation.ofRow r with
      | error fault => rfl
      | ok m =>
        have other : m.id ≠ id := by
          rintro rfl
          exact keyed (Row.hasKey_iff.mpr (Mutation.ofRow_eq_ok_iff.mp read).1.id)
        cases rest.mapM Mutation.ofRow with
        | error fault => rfl
        | ok queued => simp [Except.map, bind, Except.bind, pure, Except.pure, other]

/-! ## What comes back -/

/-- An id is queued with a payload that is read, and read again after it was written anew. -/
structure Queues (rows : List Row) (id : String) (payload : Json) : Prop where
  row : ∃ r ∈ rows, r.cell 0 = .text id ∧
    ∃ s, r.cell 4 = .text s ∧ Json.parse s = .ok payload
  faithful : payload.Faithful

/-- A mutation as it is read from the row that is written for it: its time is cut off to
milliseconds. -/
def Mutation.stored (m : Mutation) : Mutation :=
  { m with enqueuedAt := .ofMillis m.enqueuedAt.toMillis }

/-- What it comes to that a mutation, which was queued before, is given up and queued anew as
another one. -/
structure Returned (before : View) (q m : Mutation) (after : View) : Prop where
  /-- The same change, never tried. -/
  renewed : m.change = q.change ∧ m.retries = 0 ∧ m.lastError = none ∧ m.state = .pending
  read : after.database.mutation? q.id = .ok (some m.stored)
  /-- In the order of the queue its row is the last one, and the others are as they were. -/
  queue : ∃ number,
    sortRows (rowLE Database.queueOrder) after.queueRows =
      without q.id (sortRows (rowLE Database.queueOrder) before.queueRows) ++ [⟨number, m.toRow⟩]
  /-- The queue is listed as before with the mutation at its end, unless it was not listed
  before. -/
  listed : after.database.mutations =
    before.database.mutations.map fun queued => queued.filter (·.id != q.id) ++ [m.stored]
  letters : after.letterRows = before.letterRows
  noLetter : .text q.id ∉ keysOf after.letterRows
  /-- All other tables are as they were. -/
  others : ∀ name, name ≠ .queue → after.database.rowsOf name = before.database.rowsOf name
  pass : after.pass = before.pass
  deliveries : after.deliveries = before.deliveries

/-! ## A store in order -/

theorem Shift.standing {policy : RetryPolicy} {clock now : Instant} {s t : Stock}
    {done : List Occurrence} (shift : Shift policy now s done t)
    (later : clock.toMillis ≤ now.toMillis)
    (standing : Standing 5 clock.toMillis s.queue) : Standing 5 now.toMillis t.queue := by
  have old := standing.later later
  cases shift with
  | queue fresh => exact standing.added later rfl
  | revive found read fresh => exact standing.added later rfl
  | remove present => exact old.sublist List.filter_sublist
  | bury found read => exact old.sublist List.filter_sublist
  | clear => exact .nil
  | start idle listed =>
    rw [Stock.continued_queue]
    exact old
  | @settle p a report waits orderly =>
    rw [Stock.continued_queue]
    rcases a with _ | ⟨reason | ⟨status, reason⟩⟩ | _
    · exact old.sublist List.filter_sublist
    · exact old.replaced rfl (by simp [Mutation.toRow, Mutation.cells])
    · exact old.sublist List.filter_sublist
    · exact old
  | quiet talk => exact old
  | discard present => exact old
  | panic waits => exact old

/-- Every row of the queue was written for a mutation. -/
def AllInscribed (queue : List Row) : Prop := ∀ r ∈ queue, ∃ id payload, r.Inscribed id payload

theorem Shift.allInscribed {policy : RetryPolicy} {now : Instant} {s t : Stock}
    {done : List Occurrence}
    (shift : Shift policy now s done t) (written : AllInscribed s.queue) :
    AllInscribed t.queue := by
  have fewer (id : String) : AllInscribed (without id s.queue) :=
    fun r member => written r (List.mem_of_mem_filter member)
  have new {m : Mutation} (bound : m.retries ≤ maxRetryCount) :
      AllInscribed (added s.queue m.toRow) :=
    forall_added written fun number => ⟨m.id, m.payload, Row.inscribed_toRow number bound⟩
  cases shift with
  | @queue c fresh => exact new (m := c.fresh now) (Nat.zero_le _)
  | @revive id r l found read fresh => exact new (m := l.mutation.renewed now) (Nat.zero_le _)
  | remove present => exact fewer _
  | bury found read => exact fewer _
  | clear => exact fun r none => by cases none
  | start idle listed =>
    rw [Stock.continued_queue]
    exact written
  | @settle p a report waits orderly =>
    rw [Stock.continued_queue]
    rcases a with _ | ⟨reason | ⟨status, reason⟩⟩ | _
    · exact fewer _
    · -- The state of a retry is written over the last cells of a row.
      refine forall_replaced written fun r member keyed => ?_
      obtain ⟨id, payload, inscribed⟩ := written r member
      have bound := p.current.retained_retries_le policy (Failure.transient reason).message
      exact ⟨id, payload, inscribed.overwrite bound⟩
    · exact fewer _
    · exact written
  | quiet talk => exact written
  | discard present => exact written
  | panic waits => exact written

namespace Session

variable {s t : Session}

/-- Each id is in one table at most, and there only once, and the rows of the queue stand as they
were written, the latest one last. -/
structure Orderly (s : Session) : Prop extends Tidy s where
  standing : Standing 5 s.clock.toMillis s.engine.view.queueRows
  inscribed : AllInscribed s.engine.view.queueRows

namespace Orderly

theorem after (orderly : s.Orderly) {now : Instant} {move : Move} (ok : s.Allows now move) :
    (s.after now move).Orderly := by
  have moved := after_moved orderly.sound now ok.2.isFresh
  exact ⟨orderly.toTidy.after ok.2, moved.shift.standing ok.1 orderly.standing,
    moved.shift.allInscribed orderly.inscribed⟩

theorem of_run (orderly : s.Orderly) (run : Run Allows s t) : t.Orderly := by
  induction run with
  | refl => exact orderly
  | step _ ok ih => exact ih.after ok

/-- An empty queue is in order, whatever the dead letters are. -/
theorem start {e : Engine} (sound : e.view.Sound) (empty : e.view.queueRows = [])
    (idle : e.isProcessing = false) (clock : Instant) : Orderly ⟨e, [], clock⟩ := by
  have queue : e.view.stock.queue = [] := empty
  have once : (idsOf e.view.queueRows).Nodup := by
    rw [empty]
    exact List.nodup_nil
  refine ⟨⟨sound, (Keyed.start sound once idle clock).distinct, fun id queued => ?_⟩, ?_,
    fun r member => ?_⟩
  · rw [queue] at queued
    cases queued
  · rw [empty]
    exact .nil
  · rw [empty] at member
    cases member

/-- Nothing but its payload keeps a row of the queue from being read. -/
theorem mutation? (orderly : s.Orderly) {id : String} {payload : Json}
    (queues : Queues s.engine.view.queueRows id payload) :
    ∃ q, s.engine.view.database.mutation? id = .ok (some q) ∧ q.id = id ∧
      q.payload = payload := by
  obtain ⟨r, member, key, text, data, parsed⟩ := queues.row
  obtain ⟨id', written, inscribed⟩ := orderly.inscribed r member
  -- The text of the payload is the one that the row was written with.
  obtain ⟨stored, cells, -, same, -, -⟩ := inscribed.stored
  obtain ⟨-, -, -, -, cell, -⟩ := StoredMutation.ofRow_eq_ok_iff.mp cells
  have spelled : written.text = text := by
    rw [← same]
    exact Cell.text.inj (cell.symm.trans data)
  obtain ⟨f, -, reads⟩ := inscribed.ofRow_eq
  have read : Mutation.ofRow r = .ok (f payload) := by
    rw [reads, spelled, parsePayload_eq_ok_iff.mpr parsed]
    rfl
  have carries := (Mutation.ofRow_eq_ok_iff.mp read).1
  refine ⟨f payload, ?_, carries.id_eq key, ?_⟩
  · have found : (s.engine.view.database.rowsOf .queue).find? (·.hasKey id) = some r :=
      find?_hasKey_of_once orderly.distinct.queue member key
    rw [orderly.sound.healthy.mutation?, found]
    simp only [read]
    rfl
  · obtain ⟨text', data', parsed'⟩ := carries.payload
    obtain rfl : text = text' := Cell.text.inj (data.symm.trans data')
    exact Except.ok.inj (parsed'.symm.trans parsed)

end Orderly

end Session

/-! ## There and back -/

/-- A letter that was just written is read as the mutation it was written for, which is pending
then. -/
theorem DeadLetter.exists_ofRow_toRow {q : Mutation} (faithful : q.payload.Faithful)
    (bound : q.retries ≤ maxRetryCount) (number : Nat) (given : Instant) :
    ∃ l, DeadLetter.ofRow ⟨number, (DeadLetter.mk q given).toRow⟩ = .ok l ∧
      l.mutation.id = q.id ∧ ∀ back, l.mutation.renewed back = q.renewed back :=
  ⟨_, DeadLetter.ofRow_toRow (l := ⟨q, given⟩) number faithful bound, rfl, fun _ => rfl⟩

/-- The tables that mutations do not pass through on their way to the dead letters and back. -/
theorem Database.rowsOf_revived_buried (db : Database) (l : DeadLetter) (id : String)
    (m : Mutation) {name : TableName} (queue : name ≠ .queue) (letters : name ≠ .deadLetters) :
    ((db.buried l).revived id m).rowsOf name = db.rowsOf name := by
  rw [revived, rowsOf_withRows_of_ne _ queue, rowsOf_withRows_of_ne _ letters, buried,
    rowsOf_withRows_of_ne _ queue, rowsOf_withRows_of_ne _ letters]

namespace Engine

/-- A mutation that is given up by hand and queued anew where its rows stand in order and its id is
nowhere else. -/
theorem deadLetter_requeue {e : Engine} (sound : e.view.Sound) {clock : Int}
    (standing : Standing 5 clock e.view.queueRows) (distinct : e.view.stock.Distinct)
    (apart : e.view.stock.Apart) {q : Mutation}
    (found : e.view.database.mutation? q.id = .ok (some q)) (faithful : q.payload.Faithful)
    (given : Instant) {back : Instant} (later : clock ≤ back.toMillis) :
    ∃ e₁ e₂, e.deadLetter q.id given = (e₁, .ok (some ⟨q, given⟩)) ∧
      e₁.requeue q.id back = (e₂, .ok (some (q.renewed back))) ∧
      Returned e.view q (q.renewed back) e₂.view := by
  obtain ⟨r, present, read⟩ := sound.healthy.mutation?_eq_some found
  have carries := (Mutation.ofRow_eq_ok_iff.mp read).1
  have queued : .text q.id ∈ keysOf e.view.queueRows :=
    mem_keysOf.mpr ⟨r, List.mem_of_find?_eq_some present, carries.id⟩
  have absent : .text q.id ∉ keysOf e.view.letterRows := apart q.id queued
  -- The mutation moves to a row of its own among the dead letters.
  obtain ⟨e₁, buried, view₁⟩ := deadLetter_yields sound given found
  have sound₁ : e₁.view.Sound := view₁ ▸ sound.withDatabase (sound.healthy.buried _)
  have stock₁ : e₁.view.stock = e.view.stock.buried ⟨q, given⟩ := view₁ ▸ View.stock_buried _ _
  have queue₁ : e₁.view.queueRows = without q.id e.view.queueRows := congrArg Stock.queue stock₁
  have letters₁ : e₁.view.letterRows =
      added e.view.letterRows (DeadLetter.mk q given).toRow :=
    (congrArg Stock.letters stock₁).trans (upserted_of_absent absent _ _)
  -- From there it is read, and goes back behind all that is left in the queue.
  have letter : e₁.view.letterRows.find? (·.hasKey q.id) = some
      ⟨(ofRows e.view.letterRows).nextNumber, (DeadLetter.mk q given).toRow⟩ := by
    rw [letters₁]
    exact find?_added_of_absent absent rfl
  obtain ⟨l, reread, named, renewed⟩ :=
    DeadLetter.exists_ofRow_toRow faithful carries.retries_le _ given
  have untaken : .text l.mutation.id ∉ keysOf e₁.view.queueRows := by
    rw [named, queue₁]
    exact fun left => (mem_keysOf_without.mp left).2 rfl
  obtain ⟨e₂, revived, view₂⟩ := requeue_yields sound₁ letter reread untaken back
  rw [renewed] at revived view₂
  have sound₂ : e₂.view.Sound :=
    view₂ ▸ (sound₁.withDatabase (sound₁.healthy.revived _ _)).told
  have stock₂ : e₂.view.stock = { e.view.stock with
      queue := added (without q.id e.view.queueRows) (q.renewed back).toRow } := by
    rw [view₂, View.stock_told, View.stock_revived, queue₁, letters₁, stock₁,
      without_added_of_absent absent rfl]
    rfl
  have queue₂ : e₂.view.queueRows =
      added (without q.id e.view.queueRows) (q.renewed back).toRow := congrArg Stock.queue stock₂
  have letters₂ : e₂.view.letterRows = e.view.letterRows := congrArg Stock.letters stock₂
  -- All rows stand in order before and after, so the new one is listed last.
  have standing₂ : Standing 5 back.toMillis e₂.view.queueRows := by
    rw [queue₂]
    exact (standing.sublist List.filter_sublist).added later rfl
  have last : sortRows (rowLE [5]) e₂.view.queueRows =
      without q.id (sortRows (rowLE [5]) e.view.queueRows) ++
        [⟨(ofRows (without q.id e.view.queueRows)).nextNumber, (q.renewed back).toRow⟩] := by
    rw [standing₂.sorted, standing.sorted, queue₂]
    rfl
  have new (number : Nat) :
      Mutation.ofRow ⟨number, (q.renewed back).toRow⟩ = .ok (q.renewed back).stored :=
    Mutation.ofRow_toRow (m := q.renewed back) number faithful (Nat.zero_le _)
  refine ⟨e₁, e₂, buried, revived, ⟨rfl, rfl, rfl, rfl⟩, ?_, ⟨_, last⟩, ?_, letters₂,
    ?_, ?_, ?_, ?_⟩
  · have there : e₂.view.queueRows.find? (·.hasKey q.id) = some
        ⟨(ofRows (without q.id e.view.queueRows)).nextNumber, (q.renewed back).toRow⟩ := by
      rw [queue₂]
      exact find?_added_of_absent (fun left => (mem_keysOf_without.mp left).2 rfl) rfl
    rw [View.queueRows] at there
    rw [sound₂.healthy.mutation?, there]
    simp only [new]
    rfl
  · -- The row that left is read, so where the queue is not listed this is due to another row.
    have legible : ∀ r' ∈ sortRows (rowLE [5]) e.view.queueRows, r'.hasKey q.id = true →
        ∃ m, Mutation.ofRow r' = .ok m := by
      intro r' member keyed
      have only := find?_hasKey_of_once distinct.queue
        ((sortRows_perm _ _).mem_iff.mp member) (Row.hasKey_iff.mp keyed)
      obtain rfl : r = r' := Option.some.inj (present.symm.trans only)
      exact ⟨q, read⟩
    rw [sound₂.healthy.mutations, sound.healthy.mutations]
    change (sortRows (rowLE [5]) e₂.view.queueRows).mapM Mutation.ofRow =
      ((sortRows (rowLE [5]) e.view.queueRows).mapM Mutation.ofRow).map _
    rw [last, List.mapM_append, mapM_ofRow_without legible, List.mapM_cons, new, List.mapM_nil]
    cases (sortRows (rowLE [5]) e.view.queueRows).mapM Mutation.ofRow <;> rfl
  · rw [letters₂]
    exact absent
  · intro name other
    by_cases letters : name = .deadLetters
    · subst letters
      exact letters₂
    · rw [view₂, View.told_database, view₁]
      exact Database.rowsOf_revived_buried _ _ _ _ other letters
  · exact congrArg Stock.pass stock₂
  · exact congrArg Stock.deliveries stock₂

end Engine

/-- In every state of every run that starts with a store in order and whose clock does not go back,
a mutation that is queued with a faithful payload, in whatever state and after however many
failures, and that is given up by hand and then queued anew, is the last one of the queue, as a
mutation that was never tried and that was queued then. What is returned is what is read afterwards,
but for the part of its time below a millisecond. All other rows of the queue, all dead letters and
all other tables are what they were before. -/
theorem requeued_as_before {e : Engine} {clock : Instant}
    (start : Session.Orderly ⟨e, [], clock⟩) {s : Session}
    (run : Session.Run Session.Allows ⟨e, [], clock⟩ s) {id : String} {payload : Json}
    (queues : Queues s.engine.view.queueRows id payload) {given back : Instant}
    (now : s.clock.toMillis ≤ given.toMillis) (later : given.toMillis ≤ back.toMillis) :
    ∃ q e₁ e₂, s.engine.view.database.mutation? id = .ok (some q) ∧ q.payload = payload ∧
      s.engine.deadLetter id given = (e₁, .ok (some ⟨q, given⟩)) ∧
      e₁.requeue id back = (e₂, .ok (some (q.renewed back))) ∧
      Returned s.engine.view q (q.renewed back) e₂.view := by
  have orderly := start.of_run run
  obtain ⟨q, found, rfl, rfl⟩ := orderly.mutation? queues
  obtain ⟨e₁, e₂, buried, revived, returned⟩ := Engine.deadLetter_requeue orderly.sound
    orderly.standing orderly.distinct orderly.apart found queues.faithful given (now.trans later)
  exact ⟨q, e₁, e₂, found, rfl, buried, revived, returned⟩

namespace Session

/-- Of three mutations one is given up, and a pass over the others fails for a while; one failure is
the limit. -/
def sampleSpent : Session :=
  (⟨Engine.inMemory ⟨1⟩ true, [], .epoch⟩ : Session).through
    [.enqueue sampleOne, .enqueue sampleTwo, .enqueue sampleThree, .deadLetter "m3", .process,
      .answer (.failed (.transient "HTTP 503")), .answer (.failed (.transient "HTTP 503"))]

/-- The row of the first one. -/
def sampleSpentRow : Row :=
  ⟨1, ((sampleOne.fresh .epoch).retained ⟨1⟩ (Failure.transient "HTTP 503").message).toRow⟩

end Session

/-- The theorem at a mutation that has reached the limit of its retries. -/
theorem exhausted_requeued_as_before :
    ∃ q e₁ e₂, q.retries = 1 ∧ q.state = .exhausted ∧
      Session.sampleSpent.engine.deadLetter "m1" .epoch = (e₁, .ok (some ⟨q, .epoch⟩)) ∧
      e₁.requeue "m1" .epoch = (e₂, .ok (some (q.renewed .epoch))) ∧
      Returned Session.sampleSpent.engine.view q (q.renewed .epoch) e₂.view := by
  have start := Session.Orderly.start (Engine.inMemory_sound ⟨1⟩ true) (by decide +kernel)
    (by decide +kernel) .epoch
  have faithful : Session.sampleOne.payload.Faithful := by decide +kernel
  have member : Session.sampleSpentRow ∈ Session.sampleSpent.engine.view.queueRows := by
    decide +kernel
  have queues : Queues Session.sampleSpent.engine.view.queueRows "m1"
      Session.sampleOne.payload :=
    ⟨⟨_, member, rfl, _, rfl, faithful⟩, faithful⟩
  obtain ⟨q, e₁, e₂, found, -, buried, revived, returned⟩ := requeued_as_before start
    (s := Session.sampleSpent) (.through .refl (by decide +kernel)) queues le_rfl le_rfl
  have there : Session.sampleSpent.engine.view.database.mutation? "m1" =
      .ok (some ((Session.sampleOne.fresh .epoch).retained ⟨1⟩
        (Failure.transient "HTTP 503").message)) := by
    decide +kernel
  obtain rfl := Option.some.inj (Except.ok.inj (there.symm.trans found))
  exact ⟨_, e₁, e₂, rfl, rfl, buried, revived, returned⟩

end Outbox
