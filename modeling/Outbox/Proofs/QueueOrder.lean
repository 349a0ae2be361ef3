import Outbox.Proofs.DeliveryOrder
import Outbox.Proofs.Uploads

/-!
# First in, first out

The queue is listed in the order in which mutations were queued, for the first time or anew. Nothing
but being queued gives a mutation its place: neither a failure nor the removal of others moves it,
and neither does it matter that times are cut off to milliseconds or that the number of a deleted
row is given again.

One invariant says that the rows stand in the order of their numbers and of their times, another one
that their ids stand in the order of arrival. A pass keeps to the list that it began with, so what
it has sent and what it has still to send is that list, cut in two.
-/
namespace Outbox

open Table Time

/-! ## Arrivals -/

/-- The id that an occurrence puts into the queue. -/
def Occurrence.arrival? : Occurrence → Option String
  | .queued c => some c.id
  | .requeued id => some id
  | _ => none

/-- The ids that were queued, in the order in which they were queued last: an id that is queued goes
behind all others, wherever it was before. -/
def arrivals : List Occurrence → List String
  | [] => []
  | d :: past =>
    match d.arrival? with
    | some id => (arrivals past).filter (· != id) ++ [id]
    | none => arrivals past

theorem nodup_filter_append {ids : List String} (once : ids.Nodup) (id : String) :
    (ids.filter (· != id) ++ [id]).Nodup := by
  refine List.nodup_append.mpr ⟨once.filter _, List.nodup_singleton id, ?_⟩
  intro a member b last same
  rw [List.mem_singleton.mp last] at same
  simp [same] at member

theorem nodup_arrivals (past : List Occurrence) : (arrivals past).Nodup := by
  induction past with
  | nil => exact List.nodup_nil
  | cons d past ih =>
    rw [arrivals]
    split
    next id _ => exact nodup_filter_append ih id
    · exact ih

theorem arrivals_append {done : List Occurrence} (past : List Occurrence)
    (none : ∀ d ∈ done, d.arrival? = none) : arrivals (done ++ past) = arrivals past := by
  induction done with
  | nil => rfl
  | cons d done ih =>
    rw [List.cons_append, arrivals, none d List.mem_cons_self]
    exact ih fun d' member => none d' (List.mem_cons_of_mem _ member)

theorem Occurrence.arrival?_step {rest : List Mutation} {d : Occurrence}
    (none : d.arrival? = none) :
    ∀ d' ∈ atEnd rest ++ [d], d'.arrival? = Option.none := by
  rw [List.forall_mem_append]
  constructor
  · exact forall_atEnd (P := (·.arrival? = Option.none)) rfl rest
  · exact List.forall_mem_singleton.mpr none

/-- A part of a list without repetitions is what the list has of it, in its order. -/
theorem filter_mem_of_sublist {ids all : List String} (part : ids.Sublist all) (once : all.Nodup) :
    all.filter (· ∈ ids) = ids := by
  have inside : ids.Sublist (all.filter (· ∈ ids)) := by
    have kept := part.filter (· ∈ ids)
    rwa [List.filter_eq_self.mpr (by simp)] at kept
  have same : ids.Perm (all.filter (· ∈ ids)) := by
    refine (List.perm_ext_iff_of_nodup (once.sublist part) (once.filter _)).mpr fun id => ?_
    simpa using fun member => part.subset member
  exact (inside.eq_of_length same.length_eq).symm

theorem idsOf_added_sublist {rows : List Row} {ids : List String} (part : (idsOf rows).Sublist ids)
    {id : String} {cells : List Cell} (key : cells[0]? = some (.text id))
    (fresh : .text id ∉ keysOf rows) :
    (idsOf (added rows cells)).Sublist (ids.filter (· != id) ++ [id]) := by
  rw [idsOf_added key]
  apply List.Sublist.append _ (List.Sublist.refl _)
  -- The id is not among the rows, so taking it out of the arrivals leaves all of them.
  have kept := part.filter (· != id)
  rwa [List.filter_eq_self.mpr] at kept
  intro other member
  rw [bne_iff_ne]
  rintro rfl
  exact fresh (mem_idsOf.mp member)

/-! ## The queue -/

/-- The queue stands as its ids arrived. -/
structure Queued (clock : Instant) (past : List Occurrence) (queue : List Row) : Prop where
  standing : Standing 5 clock.toMillis queue
  part : (idsOf queue).Sublist (arrivals past)

namespace Queued

variable {clock now : Instant} {past done : List Occurrence} {queue : List Row}

theorem fewer (queued : Queued clock past queue) (later : clock.toMillis ≤ now.toMillis)
    {rows : List Row} (left : rows.Sublist queue) (none : ∀ d ∈ done, d.arrival? = none) :
    Queued now (done ++ past) rows := by
  constructor
  · exact (queued.standing.later later).sublist left
  · rw [arrivals_append past none]
    exact (idsOf_sublist left).trans queued.part

/-- What is queued goes behind all others. -/
theorem add (queued : Queued clock past queue) (later : clock.toMillis ≤ now.toMillis)
    {m : Mutation} (time : m.enqueuedAt = now) (fresh : .text m.id ∉ keysOf queue) {d : Occurrence}
    (arrives : d.arrival? = some m.id) : Queued now (d :: past) (added queue m.toRow) := by
  constructor
  · exact queued.standing.added later (by rw [← time]; rfl)
  · rw [arrivals, arrives]
    exact idsOf_added_sublist queued.part rfl fresh

/-- The state of a retry is written over the row where it stands. -/
theorem replaced (queued : Queued clock past queue) (m : Mutation) (id : String) :
    Queued clock past (Table.replaced [6, 7, 8] id m.toRow queue) := by
  constructor
  · exact queued.standing.replaced rfl (by simp [Mutation.toRow, Mutation.cells])
  · rw [idsOf, Mutation.keysOf_replaced]
    exact queued.part

theorem settled {s : Stock} (queued : Queued clock past s.queue)
    (later : clock.toMillis ≤ now.toMillis) (policy : RetryPolicy) (p : Pass) (a : Answer) :
    Queued now (Occurrence.atEnd p.rest ++ [.answered p.current a] ++ past)
      (s.settled policy p.current now a).queue := by
  have none : ∀ d ∈ Occurrence.atEnd p.rest ++ [.answered p.current a], d.arrival? = none :=
    Occurrence.arrival?_step rfl
  rcases a with _ | ⟨reason | ⟨status, reason⟩⟩ | _
  · exact queued.fewer later List.filter_sublist none
  · exact (queued.fewer later (List.Sublist.refl _) none).replaced _ _
  · exact queued.fewer later List.filter_sublist none
  · exact queued.fewer later (List.Sublist.refl _) none

end Queued

theorem Shift.queued {policy : RetryPolicy} {clock now : Instant} {past done : List Occurrence}
    {s t : Stock} (shift : Shift policy now s done t) (later : clock.toMillis ≤ now.toMillis)
    (queued : Queued clock past s.queue) : Queued now (done ++ past) t.queue := by
  have all := List.Sublist.refl s.queue
  cases shift with
  | quiet talk =>
    apply queued.fewer later all
    intro d member
    cases d with
    | queued c => cases talk _ member
    | requeued id => cases talk _ member
    | _ => rfl
  | queue fresh => exact queued.add later rfl fresh rfl
  | remove present =>
    exact queued.fewer later List.filter_sublist (List.forall_mem_singleton.mpr rfl)
  | clear =>
    apply queued.fewer later (List.nil_sublist _)
    intro d member
    obtain ⟨_, -, rfl⟩ := List.mem_map.mp member
    rfl
  | bury found read =>
    exact queued.fewer later List.filter_sublist fun d none => by cases none
  | @revive id r l found read fresh =>
    -- A requeued mutation arrives anew, behind all that is queued.
    have named : l.mutation.id = id := DeadLetter.id_of_found found read
    have arrives : (Occurrence.requeued id).arrival? = some (l.mutation.renewed now).id :=
      congrArg some named.symm
    exact queued.add (m := l.mutation.renewed now) later rfl fresh arrives
  | discard present => exact queued.fewer later all (List.forall_mem_singleton.mpr rfl)
  | start idle read =>
    rw [Stock.continued_queue]
    exact queued.fewer later all (Occurrence.arrival?_step rfl)
  | @settle p a report waits orderly =>
    rw [Stock.continued_queue]
    exact queued.settled later policy p a
  | panic waits =>
    refine queued.fewer later all fun d member => ?_
    rcases List.mem_cons.mp member with rfl | last
    · rfl
    · rw [List.mem_singleton.mp last]
      rfl

/-! ## Passes -/

/-- What a pass has sent, and what it has still to send, of the list that it began with. -/
structure Drains (listed sent : List Mutation) (past : List Occurrence) (s : Stock) : Prop where
  part : sent <+: listed
  rest : ∀ p, s.pass = some p → sent ++ p.rest = listed
  whole : s.pass = none → (∀ m, .answered m .panicked ∉ past) → sent = listed

namespace Drains

variable {listed sent : List Mutation} {past done : List Occurrence} {s t : Stock}

/-- What happens outside of the pass. -/
theorem keep (drains : Drains listed sent past s) (done : List Occurrence)
    (pass : t.pass = s.pass) :
    Drains listed (sent ++ []) (done ++ past) t := by
  rw [List.append_nil]
  refine ⟨drains.part, fun p waits => drains.rest p (pass ▸ waits), fun ended orderly => ?_⟩
  exact drains.whole (pass ▸ ended) fun m panicked => orderly m (List.mem_append_right _ panicked)

/-- A pass that goes on sends the first of what is left. -/
theorem go_on (past : List Occurrence) (before : List Mutation) (s : Stock) (rest : List Mutation)
    (report : Report) :
    Drains (before ++ rest) (before ++ rest.head?.toList) past (s.continued rest report) := by
  cases rest with
  | nil => exact ⟨List.prefix_rfl, fun p none => (by cases none), fun _ _ => rfl⟩
  | cons m rest =>
    refine ⟨?_, fun p waits => ?_, fun none => by cases none⟩
    · exact (List.prefix_append_right_inj before).mpr ⟨rest, rfl⟩
    · cases waits
      exact List.append_assoc _ _ _

theorem shift {policy : RetryPolicy} {now : Instant} (drains : Drains listed sent past s)
    (shift : Shift policy now s done t) (still : .began ∉ done) :
    ∃ more, t.deliveries = s.deliveries ++ more ∧
      Drains listed (sent ++ more) (done ++ past) t := by
  cases shift with
  | start idle read => exact absurd (List.mem_append_right _ List.mem_cons_self) still
  | @settle p a report waits orderly =>
    refine ⟨p.rest.head?.toList, ?_, ?_⟩
    · rw [Stock.continued_deliveries, Stock.settled_deliveries]
    · rw [← drains.rest p waits]
      exact go_on _ _ _ _ _
  | @panic p waits =>
    refine ⟨[], (List.append_nil _).symm, ?_⟩
    rw [List.append_nil]
    refine ⟨drains.part, fun q none => (by cases none), fun _ orderly => ?_⟩
    exact absurd (List.mem_cons_of_mem _ List.mem_cons_self) (orderly p.current)
  | _ => exact ⟨[], (List.append_nil _).symm, drains.keep _ rfl⟩

end Drains

/-- A pass begins with all that is listed. -/
theorem Shift.began {policy : RetryPolicy} {now : Instant} {s t : Stock} {done : List Occurrence}
    (shift : Shift policy now s done t) (began : .began ∈ done) {listed : List Mutation}
    (read : (sortRows (rowLE [5]) s.queue).mapM Mutation.ofRow = .ok listed) :
    t.deliveries = s.deliveries ++ listed.head?.toList ∧
      Drains listed listed.head?.toList [] t := by
  cases shift with
  | quiet talk => cases talk _ began
  | @start queued idle same =>
    obtain rfl := Except.ok.inj (same.symm.trans read)
    exact ⟨Stock.continued_deliveries _ _ _, .go_on [] [] s queued .empty⟩
  | @settle p a report waits orderly => simp at began
  | _ => simp at began

/-! ## Runs -/

namespace Session

structure Arranged (s : Session) : Prop where
  sound : s.engine.view.Sound
  queued : Queued s.clock s.past s.engine.view.queueRows

namespace Arranged

variable {s t : Session}

theorem after (arranged : s.Arranged) {now : Instant} {move : Move} (ok : s.Allows now move) :
    (s.after now move).Arranged := by
  have moved := after_moved arranged.sound now ok.2.isFresh
  exact ⟨moved.sound arranged.sound, moved.shift.queued ok.1 arranged.queued⟩

theorem of_run (arranged : s.Arranged) (run : Run Allows s t) : t.Arranged := by
  induction run with
  | refl => exact arranged
  | step _ ok ih => exact ih.after ok

theorem start {e : Engine} (sound : e.view.Sound) (empty : e.view.queueRows = [])
    (clock : Instant) : Arranged ⟨e, [], clock⟩ := by
  refine ⟨sound, ?_, ?_⟩
  · rw [empty]
    exact .nil
  · rw [empty]
    exact List.nil_sublist _

theorem sorted (arranged : s.Arranged) :
    sortRows (rowLE [5]) s.engine.view.queueRows = s.engine.view.queueRows :=
  arranged.queued.standing.sorted

/-- What is listed is what is in the queue, in the order of its arrival. -/
theorem listed (arranged : s.Arranged) {queued : List Mutation}
    (listed : s.engine.view.database.mutations = .ok queued) :
    queued.map (·.id) =
      (arrivals s.past).filter (· ∈ idsOf s.engine.view.queueRows) := by
  rw [arranged.sound.healthy.mutations] at listed
  have read : s.engine.view.queueRows.mapM Mutation.ofRow = .ok queued :=
    arranged.sorted ▸ listed
  rw [← idsOf_of_listed read]
  exact (filter_mem_of_sublist arranged.queued.part (nodup_arrivals _)).symm

/-- What a pass sends is what was listed when it began. -/
theorem drains (arranged : s.Arranged) {queued : List Mutation}
    (listed : s.engine.view.database.mutations = .ok queued) {now : Instant} {move : Move}
    (ok : s.Allows now move) (began : .began ∈ (s.engine.perform now move).2)
    (run : Run Allows (s.after now move) t) :
    ∃ done, t.past = done ++ (s.after now move).past ∧ (.began ∉ done →
      ∃ sent, t.engine.deliveries = s.engine.deliveries ++ sent ∧
        Drains queued sent done t.engine.view.stock) := by
  rw [arranged.sound.healthy.mutations] at listed
  induction run with
  | refl =>
    have moved := after_moved arranged.sound now ok.2.isFresh
    obtain ⟨deliveries, drains⟩ := moved.shift.began began listed
    exact ⟨[], rfl, fun _ => ⟨_, deliveries, drains⟩⟩
  | @step t run now' move' ok' ih =>
    obtain ⟨done, told, drained⟩ := ih
    have moved := after_moved ((arranged.after ok).of_run run).sound now' ok'.2.isFresh
    refine ⟨(t.engine.perform now' move').2 ++ done, ?_, fun still => ?_⟩
    · rw [past_after, told, List.append_assoc]
    · -- No pass has begun since, so what is sent now is more of the same list.
      rw [List.mem_append, not_or] at still
      obtain ⟨sent, deliveries, drains⟩ := drained still.2
      obtain ⟨more, grown, drains⟩ := drains.shift moved.shift still.1
      refine ⟨sent ++ more, ?_, drains⟩
      rw [← List.append_assoc, ← deliveries]
      exact grown

end Arranged

end Session

/-- In every state of every run in which the clock does not go back, the rows of the queue stand in
the order of their numbers and times, and the queue is listed in the order in which its mutations
were queued last, unless a payload in it nests too deeply to be read. A pass that begins there sends
what is listed, one after the other, and nothing else until it is over. Files that wait to be
uploaded are listed in the order in which they came. -/
theorem first_in_first_out {e : Engine} (sound : e.view.Sound) (empty : e.view.queueRows = [])
    (idle : e.isProcessing = false) {clock : Instant} {s : Session}
    (run : Session.Run Session.Allows ⟨e, [], clock⟩ s) (now : Instant) :
    Standing 5 s.clock.toMillis s.engine.view.queueRows ∧
    (¬ Clogged s.past s.engine.view.queueRows →
      ∃ queued, (s.engine.query now Database.mutations).2 = .ok queued ∧
        queued.map (·.id) = (arrivals s.past).filter (· ∈ idsOf s.engine.view.queueRows) ∧
        ∀ move, s.Allows now move → .began ∈ (s.engine.perform now move).2 →
          ∀ t done, Session.Run Session.Allows (s.after now move) t →
            t.past = done ++ (s.after now move).past → .began ∉ done →
            ∃ sent, t.engine.deliveries = s.engine.deliveries ++ sent ∧
              Drains queued sent done t.engine.view.stock) ∧
    (e.view.database.Unguarded .uploads → e.view.database.rowsOf .uploads = [] →
      ∀ steps : List (Instant × Filing), steps.Pairwise (fun a b => a.1.toMillis ≤ b.1.toMillis) →
        (∀ u ∈ pendingAfter [] steps, u.metadata.depth < Json.nestingLimit) →
        ∃ uploads, ((e.fileAll steps).query now Database.allUploads).2 = .ok uploads ∧
          uploads.map (fun u => (u.id, u.bytes)) =
            (pendingAfter [] steps).map fun u => (u.id, u.bytes)) := by
  have arranged := (Session.Arranged.start sound empty clock).of_run run
  refine ⟨arranged.queued.standing, ?_, ?_⟩
  · -- The rows stand in order in any case; that they are all read takes the payloads.
    intro free
    have readable := (Session.Readable.start sound empty idle clock).of_run
      (run.mono fun _ _ _ ok => ok.2)
    obtain ⟨queued, rows⟩ := readable.legible.listed free
    have listed : s.engine.view.database.mutations = .ok queued :=
      readable.sound.healthy.mutations.trans rows
    obtain ⟨e', looked, -⟩ := Engine.query_yields arranged.sound now Database.mutations
    refine ⟨queued, by rw [looked, listed], arranged.listed listed, ?_⟩
    intro move ok began t done run' told still
    obtain ⟨done', told', drained⟩ := arranged.drains listed ok began run'
    obtain rfl := List.append_cancel_right (told.symm.trans told')
    exact drained still
  · intro unguarded none steps clocked shallow
    exact uploads_listed_in_order sound unguarded none clocked shallow now

namespace Session

def sampleOne : Change := ⟨"m1", .update, .incidents, "i1", .obj [("n", .bool true)]⟩

def sampleTwo : Change := ⟨"m2", .update, .incidents, "i2", .obj [("n", .bool true)]⟩

def sampleThree : Change := ⟨"m3", .update, .incidents, "i3", .obj [("n", .bool true)]⟩

/-- The last mutation is removed, so that its number is given to the next one, and the first one is
given up and queued anew; all of it in one millisecond. -/
def sampleReordered : Session :=
  (⟨Engine.inMemory .default true, [], .epoch⟩ : Session).through
    [.enqueue sampleOne, .enqueue sampleTwo, .purge "m2", .enqueue sampleThree, .deadLetter "m1",
      .requeue "m1"]

def sampleFiles : List (Instant × Filing) :=
  [(.epoch, .add "u1" [1] .null), (.epoch, .add "u2" [2] .null), (.epoch, .remove "u1"),
    (.epoch, .add "u3" [3] .null)]

theorem sampleReordered_free :
    ¬ Clogged sampleReordered.past sampleReordered.engine.view.queueRows := by
  have past : sampleReordered.past = [.requeued "m1", .queued sampleThree, .removed "m2",
      .queued sampleTwo, .queued sampleOne] := by decide +kernel
  rintro ⟨c, queued, -, nested⟩
  have change : c ∈ [sampleThree, sampleTwo, sampleOne] := by
    rw [past] at queued
    simpa using queued
  have shallow : ∀ c ∈ [sampleThree, sampleTwo, sampleOne],
      c.payload.depth < Json.nestingLimit := by decide
  exact absurd (shallow c change) (Nat.not_lt.mpr nested)

end Session

/-- The theorem at a queue whose first mutation was queued anew, and at some files. -/
theorem requeued_listed_last :
    (∃ queued, (Session.sampleReordered.engine.query .epoch Database.mutations).2 = .ok queued ∧
      queued.map (·.id) = ["m3", "m1"] ∧
      ∃ sent, (Session.sampleReordered.after .epoch .process).engine.deliveries =
          Session.sampleReordered.engine.deliveries ++ sent ∧ sent <+: queued) ∧
    ∃ uploads, (((Engine.inMemory .default true).fileAll Session.sampleFiles).query .epoch
        Database.allUploads).2 = .ok uploads ∧ uploads.map (·.id) = ["u2", "u3"] := by
  obtain ⟨-, queue, files⟩ := first_in_first_out (Engine.inMemory_sound .default true)
    (by decide +kernel) (by decide +kernel) (s := Session.sampleReordered)
    (.through .refl (by decide +kernel)) .epoch
  constructor
  · obtain ⟨queued, listed, ids, passes⟩ := queue Session.sampleReordered_free
    have order : (arrivals Session.sampleReordered.past).filter
        (· ∈ idsOf Session.sampleReordered.engine.view.queueRows) = ["m3", "m1"] := by
      decide +kernel
    obtain ⟨sent, deliveries, drains⟩ := passes .process (by decide +kernel) (by decide +kernel) _
      [] .refl (List.nil_append _).symm List.not_mem_nil
    exact ⟨queued, listed, ids.trans order, sent, deliveries, drains.part⟩
  · have unguarded : (Engine.inMemory .default true).view.database.get? .uploads =
        some (ofRows ((Engine.inMemory .default true).view.database.rowsOf .uploads)) := by
      decide +kernel
    obtain ⟨uploads, listed, content⟩ := files unguarded (by decide +kernel) Session.sampleFiles
      (by decide) (by decide)
    refine ⟨uploads, listed, ?_⟩
    have ids := congrArg (List.map Prod.fst) content
    rw [List.map_map, List.map_map] at ids
    exact ids.trans (by decide)

/-- A change that was accepted can keep the queue from being listed in any order. -/
theorem queue_not_listed :
    ¬ ∀ (e : Engine), e.view.Sound → e.view.queueRows = [] → e.isProcessing = false →
      ∀ (clock : Instant) (s : Session), Session.Run Session.Allows ⟨e, [], clock⟩ s → ∀ now,
        ∃ queued, (s.engine.query now Database.mutations).2 = .ok queued ∧
          queued.map (·.id) = (arrivals s.past).filter (· ∈ idsOf s.engine.view.queueRows) := by
  intro listed
  have sound := Engine.inMemory_sound .default true
  have empty : (Engine.inMemory .default true).view.queueRows = [] := by decide +kernel
  have idle : (Engine.inMemory .default true).isProcessing = false := by decide +kernel
  obtain ⟨queued, done, -⟩ := listed _ sound empty idle .epoch (Session.sampleWaiting 127)
    (.through .refl (by decide +kernel)) .epoch
  have readable := (Session.Readable.start sound empty idle .epoch).of_run Session.sample_waits
  rw [(readable.blocked Session.sample_clogged .epoch).1] at done
  cases done

end Outbox
