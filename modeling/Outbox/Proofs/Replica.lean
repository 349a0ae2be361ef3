import Outbox.Proofs.Collections
import Outbox.Proofs.QueueOrder

/-!
# The local copies and the remote side

A change that is made together with its local copy takes effect here at once, and at the remote side
when it is confirmed. Until then it is in the queue. So the changes that were confirmed, followed by
those that are queued, amount to the local copies, at any time and also while a call is in flight.

That rests on the order of the queue: a pass confirms changes from the head of it, and a new change
goes to its end, so that a change only ever passes from the one list to the other in its place.
-/
namespace Outbox

open Table Time

/-! ## Replicas -/

/-- The values of entities by kind and id. -/
abbrev Replica := EntityKind → String → Option Json

/-- The value that a change leaves; none where it deletes. -/
def Change.value? (c : Change) : Option Json :=
  match c.operation with
  | .create | .update => some c.payload
  | .delete => none

/-- A change is made in a replica. -/
def Replica.apply (r : Replica) (c : Change) : Replica :=
  Function.update r c.kind (Function.update (r c.kind) c.entityId c.value?)

/-- What changes amount to, made one after the other where nothing was. -/
def replay (changes : List Change) : Replica := changes.foldl Replica.apply fun _ _ => none

theorem replay_concat (changes : List Change) (c : Change) :
    replay (changes ++ [c]) = (replay changes).apply c :=
  List.foldl_concat _ _ _ _

def Occurrence.made? : Occurrence → Option Change
  | .queued c => some c
  | _ => none

def Occurrence.confirmed? : Occurrence → Option Change
  | .answered m .confirmed => some m.change
  | _ => none

/-- The changes that occurrences tell of, the earliest first. -/
def changesOf (f : Occurrence → Option Change) (past : List Occurrence) : List Change :=
  past.reverse.filterMap f

/-- The changes that were queued, in that order. -/
def madeChanges : List Occurrence → List Change := changesOf Occurrence.made?

/-- The changes that the remote side has confirmed, in the order of its answers. -/
def confirmedChanges : List Occurrence → List Change := changesOf Occurrence.confirmed?

section Changes

variable {f : Occurrence → Option Change}

theorem changesOf_append (done past : List Occurrence) :
    changesOf f (done ++ past) = changesOf f past ++ changesOf f done := by
  rw [changesOf, List.reverse_append, List.filterMap_append]
  rfl

theorem changesOf_of_none {done : List Occurrence} (none : ∀ d ∈ done, f d = none) :
    changesOf f done = [] := by
  rw [changesOf, List.filterMap_eq_nil_iff]
  intro d member
  exact none d (List.mem_reverse.mp member)

theorem changesOf_atEnd (ending : f .ended = none) (rest : List Mutation) (d : Occurrence) :
    changesOf f (Occurrence.atEnd rest ++ [d]) = (f d).toList := by
  have last : changesOf f (Occurrence.atEnd rest) = [] :=
    changesOf_of_none (Occurrence.forall_atEnd (P := (f · = none)) ending rest)
  rw [changesOf_append, last, List.append_nil]
  simp only [changesOf, List.reverse_singleton, List.filterMap_cons, List.filterMap_nil]
  cases f d <;> rfl

end Changes

/-- Rows of a collection after a change was made there hold what the replica does. -/
theorem Holds.rowsAfter {rows : List Row} {r : Replica} {c : Change} (holds : Holds rows (r c.kind))
    (faithful : c.payload.Faithful) (now : Instant) :
    Holds (Database.rowsAfter (c.fresh now) now rows) (r.apply c c.kind) := by
  rw [Replica.apply, Function.update_self, Change.value?, Database.rowsAfter,
    show (c.fresh now).operation = c.operation from rfl]
  cases c.operation with
  | delete => exact holds.without c.entityId
  | _ => exact holds.upserted ⟨c.entityId, c.payload, now⟩ faithful

/-! ## Moves -/

/-- What a run consists of in which nothing goes wrong: changes that are made with their local
copies, turns of the network, and passes whose calls are confirmed. -/
def Move.IsOrderly : Move → Prop
  | .mutate c => c.payload.Faithful
  | .answer a => a = .confirmed
  | .setOnline _ | .push _ | .process | .run _ => True
  | _ => False

instance : (move : Move) → Decidable move.IsOrderly
  | .mutate c => inferInstanceAs (Decidable c.payload.Faithful)
  | .answer a => inferInstanceAs (Decidable (a = .confirmed))
  | .setOnline _ | .push _ | .process | .run _ => .isTrue trivial
  | .enqueue _ | .purge _ | .clear | .deadLetter _ | .requeue _ | .purgeDeadLetter _ => .isFalse id

/-- What an orderly move can do to the store and to the pass. -/
inductive Progress (now : Instant) (db : Database) (pass : Option Pass) :
    List Occurrence → Database → Option Pass → Prop
  | talk {past : List Occurrence} (talk : ∀ d ∈ past, d.isTalk = true) :
    Progress now db pass past db pass
  | write {c : Change} (faithful : c.payload.Faithful) :
    Progress now db pass [.queued c]
      ((db.withRows (.collection c.kind) (Database.rowsAfter (c.fresh now) now
        (db.rowsOf (.collection c.kind)))).withRows .queue
          (added (db.rowsOf .queue) (c.fresh now).toRow)) pass
  | start {queued : List Mutation} {after : Option Pass} (listed : db.mutations = .ok queued)
    (begins : ∀ p, after = some p → p.current :: p.rest = queued) :
    Progress now db pass (Occurrence.atEnd queued ++ [.began]) db after
  | confirm {p : Pass} {after : Option Pass} (waits : pass = some p)
    (goes_on : ∀ q, after = some q → q.current :: q.rest = p.rest) :
    Progress now db pass (Occurrence.atEnd p.rest ++ [.answered p.current .confirmed])
      (db.withRows .queue (without p.current.id (db.rowsOf .queue))) after

/-- The way from one view to another one. -/
def View.Progresses (now : Instant) (v : View) (past : List Occurrence) (w : View) : Prop :=
  Progress now v.database v.pass past w.database w.pass

namespace View

theorem continued_pass {v : View} {rest : List Mutation} {report : Report} {p : Pass}
    (waits : (v.continued rest report).pass = some p) : p.current :: p.rest = rest := by
  cases rest with
  | nil => cases waits
  | cons m rest =>
    cases waits
    rfl

end View

namespace Engine

variable {e : Engine}

theorem startPass_progresses (s : e.view.Sound) (now : Instant) :
    e.view.Progresses now (Occurrence.ofOutcome (e.startPass now).2) (e.startPass now).1.view := by
  rcases startPass_cases s now with
    ⟨reason, run⟩ | ⟨e', fault, run, same⟩ | ⟨e', queued, idle, listed, run, view⟩
  · rw [run]
    exact .talk (by simp [Occurrence.ofOutcome])
  · rw [run, same]
    exact .talk (by simp [Occurrence.ofOutcome, Occurrence.isTalk])
  · rw [run, Occurrence.ofOutcome_outcomeAfter, view, View.Progresses, View.continued_database]
    exact .start listed fun p waits => View.continued_pass waits

/-- A pass in the background is a pass, but for what it tells where none is made. -/
theorem drain_progresses (s : e.view.Sound) (now : Instant) :
    e.view.Progresses now (e.runTask now .drain).2 (e.runTask now .drain).1.view := by
  rcases startPass_cases s now with
    ⟨reason, run⟩ | ⟨e', fault, run, same⟩ | ⟨e', queued, -, -, run, -⟩
  · simp only [runTask, run]
    cases reason <;> exact .talk (by simp [Occurrence.ofOutcome, Occurrence.isTalk])
  · simp only [runTask, run, view_log, same]
    exact .talk (by simp [Occurrence.isTalk])
  · have progress := startPass_progresses s now
    rw [run] at progress
    cases queued <;> simp only [runTask, run] <;> exact progress

theorem runTask_progresses (s : e.view.Sound) (now : Instant) (t : Task) :
    e.view.Progresses now (e.runTask now t).2 (e.runTask now t).1.view := by
  cases t with
  | drain => exact drain_progresses s now
  | connectivity =>
    simp only [runTask, view_runConnectivity]
    cases e.view.connectivity with
    | none => exact .talk (by simp)
    | some position =>
      simp only
      rw [View.heard_eq]
      exact .talk (by simp)
  | watch =>
    have talk := Occurrence.isTalk_ofReports e.isOnline e.reports
    simp only [runTask, view_runWatch]
    cases e.view.watch with
    | none => exact .talk talk
    | some position =>
      cases e.view.listener with
      | none => exact .talk talk
      | some listener =>
        simp only
        rw [View.carried_eq]
        exact .talk talk

/-- All that an orderly move does to the store and to the pass. -/
theorem perform_progresses (s : e.view.Sound) (now : Instant) {move : Move}
    (fresh : move.IsFresh e.view.queueRows) (orderly : move.IsOrderly) :
    e.view.Progresses now (e.perform now move).2 (e.perform now move).1.view := by
  cases move with
  | mutate c =>
    obtain ⟨e', run, view⟩ := mutate_yields s now (m := c.fresh now) (fresh c rfl)
    simp only [perform, run, tell, view]
    -- The requester is told last, which at most wakes a task.
    rw [View.Progresses, View.told_database, View.told_pass]
    exact .write orderly
  | setOnline online =>
    simp only [perform, view_setOnline]
    rw [View.turnedTo_eq]
    exact .talk (by split <;> simp [Occurrence.isTalk])
  | push status =>
    simp only [perform, view_push]
    exact .talk (by simp)
  | process => exact startPass_progresses s now
  | answer a =>
    obtain rfl : a = .confirmed := orderly
    cases sent : e.pass with
    | none =>
      simp only [perform, inFlight, sent, Option.map_none]
      exact .talk (by simp)
    | some p =>
      have waits : e.view.pass = some p := sent
      obtain ⟨e', run, view⟩ := answer_yields s waits (a := .confirmed) (by simp) now
      simp only [perform, inFlight, sent, Option.map_some, run, Occurrence.ending_outcomeAfter,
        view]
      rw [View.Progresses, View.continued_database]
      exact .confirm waits fun q waits' => View.continued_pass waits'
  | run position =>
    simp only [perform]
    cases e.tasks[position]? with
    | none => exact .talk (by simp)
    | some t =>
      -- The task leaves the ready ones first, which changes neither the store nor the pass.
      have left : ({ e with tasks := e.tasks.eraseIdx position } : Engine).view.Sound :=
        ⟨s.isOpen, s.healthy⟩
      exact runTask_progresses left now t
  | _ => cases orderly

end Engine

/-! ## Agreement -/

/-- Without its head the queue is listed without its first row. -/
theorem listed_without_head {rows : List Row} {m : Mutation} {rest : List Mutation}
    (listed : rows.mapM Mutation.ofRow = .ok (m :: rest)) (once : (idsOf rows).Nodup) :
    (without m.id rows).mapM Mutation.ofRow = .ok rest := by
  cases rows with
  | nil => cases listed
  | cons r rows =>
    rw [idsOf_of_listed listed, List.map_cons, List.nodup_cons] at once
    obtain ⟨_, _, read, behind, same⟩ := mapM_cons_eq_ok_iff.mp listed
    cases same
    have keyed : r.hasKey m.id = true := Row.hasKey_iff.mpr (Mutation.ofRow_eq_ok_iff.mp read).1.id
    have others : .text m.id ∉ keysOf rows := by
      rw [← mem_idsOf, idsOf_of_listed behind]
      exact once.1
    have left : without m.id (r :: rows) = without m.id rows :=
      List.filter_cons_of_neg (by simp [keyed])
    rw [left, without_of_absent others]
    exact behind

/-- The local copies are what all changes amount to that were made, and of these the earlier ones
are confirmed and the others queued. -/
structure Agrees (past : List Occurrence) (db : Database) (pass : Option Pass)
    (queued : List Mutation) : Prop where
  listed : (db.rowsOf .queue).mapM Mutation.ofRow = .ok queued
  /-- A pass has the head of the queue still to do. -/
  head : ∀ p, pass = some p → p.current :: p.rest <+: queued
  made : madeChanges past = confirmedChanges past ++ queued.map Mutation.change
  copies : ∀ kind, Holds (db.rowsOf (.collection kind)) (replay (madeChanges past) kind)

namespace Agrees

variable {past done : List Occurrence} {db : Database} {pass after : Option Pass}
  {queued : List Mutation} {now : Instant}

theorem start (empty : db.rowsOf .queue = []) (bare : ∀ kind, db.rowsOf (.collection kind) = []) :
    Agrees [] db none [] := by
  refine ⟨by rw [empty]; rfl, fun p waits => (by cases waits), rfl, fun kind => ?_⟩
  rw [bare kind]
  exact .nil

/-- While nothing is made and nothing confirmed. -/
theorem keep (agrees : Agrees past db pass queued) (unmade : madeChanges done = [])
    (unconfirmed : confirmedChanges done = [])
    (head : ∀ p, after = some p → p.current :: p.rest <+: queued) :
    Agrees (done ++ past) db after queued := by
  have made : madeChanges (done ++ past) = madeChanges past := by
    rw [madeChanges, changesOf_append, ← madeChanges, unmade, List.append_nil]
  have confirmed : confirmedChanges (done ++ past) = confirmedChanges past := by
    rw [confirmedChanges, changesOf_append, ← confirmedChanges, unconfirmed, List.append_nil]
  refine ⟨agrees.listed, head, ?_, ?_⟩
  · rw [made, confirmed]
    exact agrees.made
  · rw [made]
    exact agrees.copies

/-- A new change goes to the end of the queue, and takes effect in its copy. -/
theorem write (agrees : Agrees past db pass queued) {c : Change} (faithful : c.payload.Faithful) :
    ∃ m : Mutation, Agrees (.queued c :: past)
      ((db.withRows (.collection c.kind) (Database.rowsAfter (c.fresh now) now
        (db.rowsOf (.collection c.kind)))).withRows .queue
          (added (db.rowsOf .queue) (c.fresh now).toRow)) pass (queued ++ [m]) := by
  -- The row carries the change, at a time that is cut off to milliseconds.
  have read (number : Nat) :=
    Mutation.ofRow_toRow (m := c.fresh now) number faithful (Nat.zero_le _)
  have made : madeChanges (.queued c :: past) = madeChanges past ++ [c] :=
    changesOf_append [.queued c] past
  have confirmed : confirmedChanges (.queued c :: past) = confirmedChanges past :=
    (changesOf_append [.queued c] past).trans (List.append_nil _)
  refine ⟨{ c.fresh now with enqueuedAt := .ofMillis now.toMillis }, ?_, ?_, ?_, fun kind => ?_⟩
  · rw [Database.rowsOf_withRows_self, added, List.mapM_append, agrees.listed]
    simp only [List.mapM_cons, List.mapM_nil, read]
    rfl
  · exact fun p waits => (agrees.head p waits).trans (List.prefix_append _ _)
  · rw [made, confirmed, agrees.made, List.map_append, List.append_assoc]
    rfl
  · rw [made, replay_concat, Database.rowsOf_withRows_of_ne _ (by simp)]
    -- The change touches the collection of its kind and no other one, and so does the replay.
    by_cases same : kind = c.kind
    · subst same
      rw [Database.rowsOf_withRows_self]
      exact (agrees.copies c.kind).rowsAfter faithful now
    · rw [Database.rowsOf_withRows_of_ne _ (by simpa using same), Replica.apply,
        Function.update_of_ne same]
      exact agrees.copies kind

/-- The head of the queue is confirmed. -/
theorem confirm (agrees : Agrees past db pass queued) (once : (idsOf (db.rowsOf .queue)).Nodup)
    {p : Pass} (waits : pass = some p)
    (goes_on : ∀ q, after = some q → q.current :: q.rest = p.rest) :
    ∃ left, Agrees (Occurrence.atEnd p.rest ++ [.answered p.current .confirmed] ++ past)
      (db.withRows .queue (without p.current.id (db.rowsOf .queue))) after left := by
  -- What was queued behind the pass stays behind it.
  obtain ⟨behind, rfl⟩ := agrees.head p waits
  have made : madeChanges (Occurrence.atEnd p.rest ++ [.answered p.current .confirmed] ++ past) =
      madeChanges past := by
    rw [madeChanges, changesOf_append, changesOf_atEnd rfl]
    exact List.append_nil _
  refine ⟨p.rest ++ behind, ?_, ?_, ?_, ?_⟩
  · rw [Database.rowsOf_withRows_self]
    exact listed_without_head agrees.listed once
  · intro q waits'
    rw [goes_on q waits']
    exact List.prefix_append _ _
  · -- The change ends the one list where it began the other.
    rw [made, confirmedChanges, changesOf_append, changesOf_atEnd rfl, List.append_assoc]
    exact agrees.made
  · intro kind
    rw [made, Database.rowsOf_withRows_of_ne _ (by simp)]
    exact agrees.copies kind

end Agrees

/-- Every orderly step keeps the agreement, as long as the rows stand in the order in which they are
listed and no id is there twice. -/
theorem Progress.agrees {now clock : Instant} {past done : List Occurrence} {db after : Database}
    {pass next : Option Pass} {queued : List Mutation}
    (progress : Progress now db pass done after next) (healthy : db.Healthy)
    (standing : Standing 5 clock.toMillis (db.rowsOf .queue))
    (once : (idsOf (db.rowsOf .queue)).Nodup) (agrees : Agrees past db pass queued) :
    ∃ queued, Agrees (done ++ past) after next queued := by
  cases progress with
  | talk talk =>
    refine ⟨queued, agrees.keep (changesOf_of_none ?_) (changesOf_of_none ?_) agrees.head⟩
    · intro d member
      cases d with
      | queued c => cases talk _ member
      | _ => rfl
    · intro d member
      cases d with
      | answered m a => cases talk _ member
      | _ => rfl
  | write faithful =>
    obtain ⟨m, agrees⟩ := agrees.write faithful
    exact ⟨_, agrees⟩
  | @start snapshot next listed begins =>
    -- A pass begins with the queue as it stands.
    rw [healthy.mutations, standing.sorted, agrees.listed] at listed
    obtain rfl := Except.ok.inj listed
    have ending := changesOf_atEnd (f := Occurrence.made?) rfl queued .began
    refine ⟨queued, agrees.keep ending (changesOf_atEnd rfl queued .began) fun p waits => ?_⟩
    rw [begins p waits]
  | confirm waits goes_on => exact agrees.confirm once waits goes_on

/-! ## Runs -/

namespace Session

/-- Orderly moves with new ids, while the clock does not go back. -/
def Delivers (s : Session) (now : Instant) (move : Move) : Prop :=
  s.Allows now move ∧ move.IsOrderly

instance (s : Session) (now : Instant) (move : Move) : Decidable (s.Delivers now move) :=
  inferInstanceAs (Decidable (_ ∧ _))

/-- The queue is in order, and agrees with the copies. -/
structure Mirrored (s : Session) : Prop where
  arranged : s.Arranged
  keyed : s.Keyed
  agrees : ∃ queued, Agrees s.past s.engine.view.database s.engine.view.pass queued

theorem Mirrored.after {s : Session} (mirrored : s.Mirrored) {now : Instant} {move : Move}
    (ok : s.Delivers now move) : (s.after now move).Mirrored := by
  refine ⟨mirrored.arranged.after ok.1, mirrored.keyed.after now ok.1.2, ?_⟩
  have sound := mirrored.arranged.sound
  have progress := Engine.perform_progresses sound now ok.1.2.isFresh ok.2
  obtain ⟨queued, agrees⟩ := mirrored.agrees
  exact progress.agrees sound.healthy mirrored.arranged.queued.standing
    mirrored.keyed.distinct.queue agrees

theorem Mirrored.of_run {s t : Session} (mirrored : s.Mirrored) (run : Run Delivers s t) :
    t.Mirrored := by
  induction run with
  | refl => exact mirrored
  | step _ ok ih => exact ih.after ok

theorem Mirrored.start {e : Engine} (sound : e.view.Sound) (empty : e.view.queueRows = [])
    (bare : ∀ kind, e.view.database.rowsOf (.collection kind) = [])
    (idle : e.isProcessing = false) (clock : Instant) : Mirrored ⟨e, [], clock⟩ := by
  refine ⟨.start sound empty clock, .start sound ?_ idle clock, [], ?_⟩
  · rw [empty]
    exact List.nodup_nil
  · rw [show e.view.pass = none from Engine.isProcessing_eq_false_iff.mp idle]
    exact .start empty bare

end Session

/-- In every state of every run in which changes are made with their local copies and every call is
confirmed, also while a call is in flight, the changes that the remote side has confirmed, followed
by those that are listed in the queue, are all that were made, in that order, and they amount to the
local copies: for every kind and every id they leave the value that is found in the copy, and none
where no copy is found. -/
theorem copies_agree_with_confirmed_and_queued {e : Engine} (sound : e.view.Sound)
    (empty : e.view.queueRows = []) (bare : ∀ kind, e.view.database.rowsOf (.collection kind) = [])
    (idle : e.isProcessing = false) {clock : Instant} {s : Session}
    (run : Session.Run Session.Delivers ⟨e, [], clock⟩ s) (now : Instant) :
    ∃ queued, (s.engine.query now Database.mutations).2 = .ok queued ∧
      madeChanges s.past = confirmedChanges s.past ++ queued.map Mutation.change ∧
      ∀ kind id, ∃ copy, (s.engine.query now fun db => db.entity? kind id).2 = .ok copy ∧
        copy.map (·.value) =
          replay (confirmedChanges s.past ++ queued.map Mutation.change) kind id := by
  have mirrored := (Session.Mirrored.start sound empty bare idle clock).of_run run
  obtain ⟨queued, agrees⟩ := mirrored.agrees
  have sound := mirrored.arranged.sound
  refine ⟨queued, ?_, agrees.made, fun kind id => ?_⟩
  · obtain ⟨e', looked, -⟩ := Engine.query_yields sound now Database.mutations
    rw [looked, sound.healthy.mutations]
    exact mirrored.arranged.sorted ▸ agrees.listed
  · obtain ⟨copy, found, value⟩ := agrees.copies kind id
    obtain ⟨e', looked, -⟩ := Engine.query_yields sound now fun db => db.entity? kind id
    refine ⟨copy, by rw [looked, sound.healthy.entity?, found], ?_⟩
    rw [← agrees.made]
    exact value

namespace Session

def sampleMade : Change := ⟨"m1", .create, .incidents, "i1", .obj [("n", .bool true)]⟩

def sampleOther : Change := ⟨"m2", .update, .audits, "i1", .obj [("n", .bool false)]⟩

def sampleUnmade : Change := ⟨"m3", .delete, .incidents, "i1", .null⟩

/-- While the first change is in flight, another entity of the same id is changed and the first one
is deleted; then the call is confirmed. -/
def sampleMirrored : Session :=
  (⟨Engine.inMemory .default true, [], .epoch⟩ : Session).through
    [.mutate sampleMade, .process, .mutate sampleOther, .mutate sampleUnmade, .answer .confirmed]

end Session

/-- The theorem at a session in which changes wait behind one that was confirmed. -/
theorem copies_agree_behind_confirmed :
    confirmedChanges Session.sampleMirrored.past = [Session.sampleMade] ∧
    madeChanges Session.sampleMirrored.past =
      [Session.sampleMade, Session.sampleOther, Session.sampleUnmade] ∧
    ∃ queued, (Session.sampleMirrored.engine.query .epoch Database.mutations).2 = .ok queued ∧
      queued.map Mutation.change = [Session.sampleOther, Session.sampleUnmade] ∧
      ∀ kind id, ∃ copy,
        (Session.sampleMirrored.engine.query .epoch fun db => db.entity? kind id).2 = .ok copy ∧
          copy.map (·.value) =
            if kind = .audits ∧ id = "i1" then some Session.sampleOther.payload else none := by
  have confirmed : confirmedChanges Session.sampleMirrored.past = [Session.sampleMade] := by
    decide +kernel
  have bare : ∀ kind,
      (Engine.inMemory .default true).view.database.rowsOf (.collection kind) = [] := by
    intro kind
    cases kind <;> decide +kernel
  obtain ⟨queued, listed, made, agree⟩ := copies_agree_with_confirmed_and_queued
    (Engine.inMemory_sound .default true) (by decide +kernel) bare (by decide +kernel)
    (s := Session.sampleMirrored) (.through .refl (by decide +kernel)) .epoch
  have changes : queued.map Mutation.change = [Session.sampleOther, Session.sampleUnmade] := by
    have read : ((Session.sampleMirrored.engine.query .epoch Database.mutations).2.toOption.map
        fun queued => queued.map Mutation.change) =
          some [Session.sampleOther, Session.sampleUnmade] := by decide +kernel
    rw [listed] at read
    exact Option.some.inj read
  rw [confirmed, changes] at made
  refine ⟨confirmed, made, queued, listed, changes, fun kind id => ?_⟩
  obtain ⟨copy, found, value⟩ := agree kind id
  refine ⟨copy, found, value.trans ?_⟩
  rw [confirmed, changes]
  simp only [replay, List.singleton_append, List.foldl_cons, List.foldl_nil, Replica.apply,
    Function.update_apply, Session.sampleMade, Session.sampleOther, Session.sampleUnmade,
    Change.value?]
  by_cases first : id = "i1"
  · cases kind <;> simp [first]
  · cases kind <;> simp [first]

end Outbox
