import Outbox.Proofs.Launch
import Outbox.Proofs.Stock

/-!
# No loss and no double residence

Every change that was queued stays in the queue or becomes a dead letter, and never is both, until
it is removed by hand or the remote side confirms it. That holds for several engines on one file,
some of them dropped in the middle of a pass and others started anew, since a pass carries nothing
that was not queued, and no statement on the two tables forgets a change or makes one up.
-/
namespace Outbox

open Table Time

/-! ## The two tables -/

/-- A change that was queued and is neither removed nor confirmed. -/
structure Outstanding (past : List Occurrence) (c : Change) : Prop where
  queued : .queued c ∈ past
  kept : .removed c.id ∉ past
  unconfirmed : ∀ m : Mutation, m.id = c.id → .answered m .confirmed ∉ past

/-- What some occurrences say about the rows of the queue and of the dead letters. -/
structure Kept (past : List Occurrence) (queue letters : List Row) : Prop where
  distinct : ∀ c c', .queued c ∈ past → .queued c' ∈ past → c.id = c'.id → c = c'
  faithful : ∀ c, .queued c ∈ past → c.payload.Faithful
  apart : ∀ id, .text id ∈ keysOf queue → .text id ∉ keysOf letters
  inQueue : ∀ r ∈ queue, ∃ m, Mutation.ofRow r = .ok m ∧ .queued m.change ∈ past
  inLetters : ∀ r ∈ letters, ∃ l, DeadLetter.ofRow r = .ok l ∧ .queued l.mutation.change ∈ past
  somewhere : ∀ c, Outstanding past c →
    .text c.id ∈ keysOf queue ∨ .text c.id ∈ keysOf letters

/-- The pass in progress carries changes that were queued. -/
def Carried (past : List Occurrence) (pass : Option Pass) : Prop :=
  ∀ p, pass = some p → ∀ m ∈ p.current :: p.rest, .queued m.change ∈ past

namespace Kept

variable {past : List Occurrence} {queue letters : List Row}

theorem nil : Kept [] [] [] where
  distinct _ _ h := by cases h
  faithful _ h := by cases h
  apart _ h := by cases h
  inQueue _ h := by cases h
  inLetters _ h := by cases h
  somewhere _ h := by cases h.queued

/-- Occurrences that queue nothing leave fewer changes to account for. -/
theorem grow (kept : Kept past queue letters) (more : List Occurrence)
    (none : ∀ c, .queued c ∉ more) : Kept (more ++ past) queue letters where
  distinct c c' h h' := kept.distinct c c' ((List.mem_append.mp h).resolve_left (none c))
    ((List.mem_append.mp h').resolve_left (none c'))
  faithful c h := kept.faithful c ((List.mem_append.mp h).resolve_left (none c))
  apart := kept.apart
  inQueue r member := by
    obtain ⟨m, read, told⟩ := kept.inQueue r member
    exact ⟨m, read, List.mem_append_right more told⟩
  inLetters r member := by
    obtain ⟨l, read, told⟩ := kept.inLetters r member
    exact ⟨l, read, List.mem_append_right more told⟩
  somewhere c out := by
    refine kept.somewhere c ⟨(List.mem_append.mp out.queued).resolve_left (none c), ?_, ?_⟩
    · exact fun h => out.kept (List.mem_append_right more h)
    · exact fun m same h => out.unconfirmed m same (List.mem_append_right more h)

/-- The key of a row of the queue belongs to a change that was queued. -/
theorem queued_of_key (kept : Kept past queue letters) {id : String}
    (present : .text id ∈ keysOf queue) : ∃ c : Change, c.id = id ∧ .queued c ∈ past := by
  obtain ⟨r, member, key⟩ := mem_keysOf.mp present
  obtain ⟨m, read, told⟩ := kept.inQueue r member
  exact ⟨m.change, (Mutation.ofRow_eq_ok_iff.mp read).1.id_eq key, told⟩

theorem letter_of_key (kept : Kept past queue letters) {id : String}
    (present : .text id ∈ keysOf letters) : ∃ c : Change, c.id = id ∧ .queued c ∈ past := by
  obtain ⟨r, member, key⟩ := mem_keysOf.mp present
  obtain ⟨l, read, told⟩ := kept.inLetters r member
  exact ⟨l.mutation.change, (DeadLetter.ofRow_eq_ok_iff.mp read).1.id_eq key, told⟩

theorem mutation? {db : Database} (kept : Kept past (db.rowsOf .queue) letters)
    (healthy : db.Healthy) {c : Change} (told : .queued c ∈ past)
    (present : .text c.id ∈ keysOf (db.rowsOf .queue)) :
    ∃ m, db.mutation? c.id = .ok (some m) ∧ m.change = c := by
  obtain ⟨r, member, found, key⟩ := find?_hasKey_of_present present
  obtain ⟨m, read, earlier⟩ := kept.inQueue r member
  have same : m.id = c.id := (Mutation.ofRow_eq_ok_iff.mp read).1.id_eq key
  refine ⟨m, ?_, kept.distinct _ _ earlier told same⟩
  simp only [healthy.mutation?, found, read]
  rfl

theorem deadLetter? {db : Database} (kept : Kept past queue (db.rowsOf .deadLetters))
    (healthy : db.Healthy) {c : Change} (told : .queued c ∈ past)
    (present : .text c.id ∈ keysOf (db.rowsOf .deadLetters)) :
    ∃ l, db.deadLetter? c.id = .ok (some l) ∧ l.mutation.change = c := by
  obtain ⟨r, member, found, key⟩ := find?_hasKey_of_present present
  obtain ⟨l, read, earlier⟩ := kept.inLetters r member
  have same : l.mutation.id = c.id := (DeadLetter.ofRow_eq_ok_iff.mp read).1.id_eq key
  refine ⟨l, ?_, kept.distinct _ _ earlier told same⟩
  simp only [healthy.deadLetter?, found, read]
  rfl

/-- A new change is put into the queue. -/
theorem enqueue (kept : Kept past queue letters) {c : Change} (now : Instant)
    (new : ∀ c', .queued c' ∈ past → c'.id ≠ c.id) (faithful : c.payload.Faithful) :
    Kept (.queued c :: past) (added queue (c.fresh now).toRow) letters := by
  have keys (id : String) : .text id ∈ keysOf (added queue (c.fresh now).toRow) ↔
      .text id ∈ keysOf queue ∨ id = c.id := by
    rw [mem_keysOf_added rfl]
    exact or_congr_right ⟨fun h => Cell.text.inj h, fun h => congrArg Cell.text h⟩
  refine ⟨?_, ?_, ?_, ?_, ?_, ?_⟩
  · intro c₁ c₂ h₁ h₂ same
    rcases List.mem_cons.mp h₁ with first₁ | old₁ <;> rcases List.mem_cons.mp h₂ with first₂ | old₂
    · cases first₁
      cases first₂
      rfl
    · cases first₁
      exact absurd same.symm (new c₂ old₂)
    · cases first₂
      exact absurd same (new c₁ old₁)
    · exact kept.distinct c₁ c₂ old₁ old₂ same
  · intro c' h
    rcases List.mem_cons.mp h with first | old
    · cases first
      exact faithful
    · exact kept.faithful c' old
  · intro id present
    rcases (keys id).mp present with old | rfl
    · exact kept.apart id old
    · -- An id among the dead letters was queued once, so a new one is not there.
      intro buried
      obtain ⟨c', same, told⟩ := kept.letter_of_key buried
      exact new c' told same
  · refine forall_added (fun r member => ?_) fun number => ?_
    · obtain ⟨m, read, told⟩ := kept.inQueue r member
      exact ⟨m, read, List.mem_cons_of_mem _ told⟩
    · exact ⟨_, Mutation.ofRow_toRow number faithful (Nat.zero_le _), List.mem_cons_self⟩
  · intro r member
    obtain ⟨l, read, told⟩ := kept.inLetters r member
    exact ⟨l, read, List.mem_cons_of_mem _ told⟩
  · intro c' out
    rcases List.mem_cons.mp out.queued with first | old
    · -- The change is in the queue now, and what was somewhere stays there.
      cases first
      exact .inl ((keys c.id).mpr (.inr rfl))
    · refine (kept.somewhere c' ⟨old, ?_, ?_⟩).imp_left fun h => (keys c'.id).mpr (.inl h)
      · exact fun h => out.kept (List.mem_cons_of_mem _ h)
      · exact fun m same h => out.unconfirmed m same (List.mem_cons_of_mem _ h)

/-- A change leaves the queue that need not be accounted for any more. -/
theorem remove (kept : Kept past queue letters) {id : String}
    (settled : ∀ c, Outstanding past c → c.id ≠ id) : Kept past (without id queue) letters where
  distinct := kept.distinct
  faithful := kept.faithful
  apart id' present := kept.apart id' (mem_keysOf_without.mp present).1
  inQueue r member := kept.inQueue r (List.mem_of_mem_filter member)
  inLetters := kept.inLetters
  somewhere c out := by
    refine (kept.somewhere c out).imp_left fun h => mem_keysOf_without.mpr ⟨h, fun same => ?_⟩
    exact settled c out (Cell.text.inj same)

theorem clear (kept : Kept past queue letters)
    (settled : ∀ c, Outstanding past c → .text c.id ∉ keysOf queue) : Kept past [] letters where
  distinct := kept.distinct
  faithful := kept.faithful
  apart _ present := by cases present
  inQueue _ member := by cases member
  inLetters := kept.inLetters
  somewhere c out := .inr ((kept.somewhere c out).resolve_left (settled c out))

theorem discard (kept : Kept past queue letters) {id : String}
    (settled : ∀ c, Outstanding past c → c.id ≠ id) : Kept past queue (without id letters) where
  distinct := kept.distinct
  faithful := kept.faithful
  apart id' present := fun h => kept.apart id' present (mem_keysOf_without.mp h).1
  inQueue := kept.inQueue
  inLetters r member := kept.inLetters r (List.mem_of_mem_filter member)
  somewhere c out := by
    refine (kept.somewhere c out).imp_right fun h => mem_keysOf_without.mpr ⟨h, fun same => ?_⟩
    exact settled c out (Cell.text.inj same)

/-- Writing a retry state back changes no key and no change. -/
theorem update (kept : Kept past queue letters) {m : Mutation}
    (bound : m.retries ≤ maxRetryCount) :
    Kept past (replaced [6, 7, 8] m.id m.toRow queue) letters where
  distinct := kept.distinct
  faithful := kept.faithful
  apart id' present := by
    rw [Mutation.keysOf_replaced] at present
    exact kept.apart id' present
  inQueue := by
    refine forall_replaced kept.inQueue fun r member _ => ?_
    obtain ⟨q, read, told⟩ := kept.inQueue r member
    exact ⟨_, Mutation.ofRow_overwrite read bound, told⟩
  inLetters := kept.inLetters
  somewhere := by
    rw [Mutation.keysOf_replaced]
    exact kept.somewhere

/-- A mutation of a change that was queued becomes a dead letter, be it in the queue or not. Where
there is a letter already, its change stays. -/
theorem bury (kept : Kept past queue letters) {l : DeadLetter}
    (told : .queued l.mutation.change ∈ past) (bound : l.mutation.retries ≤ maxRetryCount) :
    Kept past (without l.mutation.id queue)
      (upserted [6, 7, 8] l.mutation.id l.toRow letters) where
  distinct := kept.distinct
  faithful := kept.faithful
  apart id' present := by
    obtain ⟨present, other⟩ := mem_keysOf_without.mp present
    rw [mem_keysOf_upserted rfl rfl, not_or]
    exact ⟨kept.apart id' present, other⟩
  inQueue r member := kept.inQueue r (List.mem_of_mem_filter member)
  inLetters := by
    refine forall_upserted kept.inLetters (fun r member _ => ?_) fun number => ?_
    · obtain ⟨k, read, earlier⟩ := kept.inLetters r member
      exact ⟨_, DeadLetter.ofRow_overwrite read bound, earlier⟩
    · -- A new letter is read back as it was written, for its payload was one that had been queued.
      have parsed : Json.parse l.mutation.payload.text = .ok l.mutation.payload :=
        kept.faithful l.mutation.change told
      exact ⟨_, DeadLetter.ofRow_toRow number parsed bound, told⟩
  somewhere c out := by
    rw [mem_keysOf_without, mem_keysOf_upserted rfl rfl]
    by_cases same : c.id = l.mutation.id
    · exact .inr (.inr (congrArg Cell.text same))
    · refine (kept.somewhere c out).imp (fun h => ⟨h, ?_⟩) .inl
      exact fun h => same (Cell.text.inj h)

/-- A dead letter is queued anew. -/
theorem revive (kept : Kept past queue letters) (now : Instant) {id : String} {r : Row}
    {l : DeadLetter} (found : letters.find? (·.hasKey id) = some r)
    (read : DeadLetter.ofRow r = .ok l) :
    Kept past (added queue (l.mutation.renewed now).toRow) (without id letters) := by
  have same : l.mutation.id = id := DeadLetter.id_of_found found read
  -- The letter stands for a change that was queued, whatever its other cells say.
  have told : .queued l.mutation.change ∈ past := by
    obtain ⟨k, read', told⟩ := kept.inLetters r (List.mem_of_find?_eq_some found)
    rw [read] at read'
    cases read'
    exact told
  have keys (id' : String) : .text id' ∈ keysOf (added queue (l.mutation.renewed now).toRow) ↔
      .text id' ∈ keysOf queue ∨ id' = id := by
    rw [mem_keysOf_added rfl, ← same]
    exact or_congr_right ⟨fun h => Cell.text.inj h, fun h => congrArg Cell.text h⟩
  refine ⟨kept.distinct, kept.faithful, ?_, ?_, ?_, ?_⟩
  · intro id' present buried
    obtain ⟨buried, other⟩ := mem_keysOf_without.mp buried
    rcases (keys id').mp present with old | rfl
    · exact kept.apart id' old buried
    · exact other rfl
  · refine forall_added kept.inQueue fun number => ?_
    have parsed : Json.parse (l.mutation.renewed now).payload.text = .ok l.mutation.payload :=
      kept.faithful l.mutation.change told
    exact ⟨_, Mutation.ofRow_toRow number parsed (Nat.zero_le maxRetryCount), told⟩
  · exact fun r member => kept.inLetters r (List.mem_of_mem_filter member)
  · intro c out
    rw [keys, mem_keysOf_without]
    by_cases moved : c.id = id
    · exact .inl (.inr moved)
    · refine (kept.somewhere c out).imp .inl fun h => ⟨h, ?_⟩
      exact fun h => moved (Cell.text.inj h)

end Kept

/-! ## Passes -/

theorem Carried.grow {past : List Occurrence} {pass : Option Pass} (carried : Carried past pass)
    (more : List Occurrence) : Carried (more ++ past) pass :=
  fun p waits m member => List.mem_append_right more (carried p waits m member)

theorem Carried.continued {past : List Occurrence} {s : Stock} {rest : List Mutation}
    {report : Report}
    (told : ∀ m ∈ rest, .queued m.change ∈ past) :
    Carried past (s.continued rest report).pass := by
  intro p waits m member
  cases rest with
  | nil => cases waits
  | cons first rest =>
    cases waits
    exact told m member

/-- A pass carries what it found in the queue. -/
theorem Kept.listed {past : List Occurrence} {queue letters : List Row} {queued : List Mutation}
    (kept : Kept past queue letters)
    (listed : (sortRows (rowLE [5]) queue).mapM Mutation.ofRow = .ok queued) :
    ∀ m ∈ queued, .queued m.change ∈ past := by
  intro m member
  obtain ⟨r, present, read⟩ := exists_of_mem_mapM listed member
  obtain ⟨m', read', told⟩ := kept.inQueue r ((sortRows_perm _ queue).mem_iff.mp present)
  rw [read] at read'
  cases read'
  exact told

/-! ## Shifts -/

namespace Occurrence

/-- Every id is given once, and to a payload that is read back as it was written. -/
def AreNew (earlier later : List Occurrence) : Prop :=
  ∀ c, .queued c ∈ later →
    (∀ c', .queued c' ∈ earlier → c'.id ≠ c.id) ∧ c.payload.Faithful

end Occurrence

/-- What an answer does in the store keeps every change. -/
theorem Kept.settle {past : List Occurrence} {s : Stock} (kept : Kept past s.queue s.letters)
    {m : Mutation} (told : .queued m.change ∈ past) (policy : RetryPolicy) (now : Instant)
    {a : Answer} (heard : .answered m a ∈ past) :
    Kept past (s.settled policy m now a).queue (s.settled policy m now a).letters := by
  rcases a with _ | ⟨reason | ⟨status, reason⟩⟩ | _
  · exact kept.remove fun c out same => out.unconfirmed m same.symm heard
  · have updated := kept.update (m.retained_retries_le policy (Failure.transient reason).message)
    rw [Mutation.retained_id] at updated
    exact updated
  · exact kept.bury told (Nat.min_le_left _ _)
  · exact kept

/-- No move loses a change or makes one up. -/
theorem Shift.kept {policy : RetryPolicy} {now : Instant} {s t : Stock}
    {past done : List Occurrence} (shift : Shift policy now s done t)
    (kept : Kept past s.queue s.letters) (carried : Carried past s.pass)
    (new : Occurrence.AreNew past done) :
    Kept (done ++ past) t.queue t.letters ∧ Carried (done ++ past) t.pass := by
  cases shift with
  | quiet talk =>
    refine ⟨kept.grow _ fun c h => ?_, carried.grow done⟩
    cases talk _ h
  | queue fresh =>
    obtain ⟨unused, faithful⟩ := new _ List.mem_cons_self
    exact ⟨kept.enqueue now unused faithful, carried.grow _⟩
  | remove present =>
    refine ⟨(kept.grow _ (by simp)).remove fun c out same => ?_, carried.grow _⟩
    exact out.kept (by simp [same])
  | clear =>
    refine ⟨(kept.grow _ (by simp)).clear fun c out present => ?_, carried.grow _⟩
    exact out.kept (List.mem_append_left _ (List.mem_map_of_mem (mem_idsOf.mpr present)))
  | bury found read =>
    obtain ⟨m', read', told⟩ := kept.inQueue _ (List.mem_of_find?_eq_some found)
    rw [read] at read'
    cases read'
    have bound := (Mutation.ofRow_eq_ok_iff.mp read).1.retries_le
    exact ⟨kept.bury told bound, carried⟩
  | revive found read fresh => exact ⟨(kept.grow _ (by simp)).revive now found read, carried.grow _⟩
  | discard present =>
    refine ⟨(kept.grow _ (by simp)).discard fun c out same => ?_, carried.grow _⟩
    exact out.kept (by simp [same])
  | @start queued idle listed =>
    have grown := kept.grow (Occurrence.atEnd queued ++ [.began]) fun c => by simp
    rw [Stock.continued_queue, Stock.continued_letters]
    exact ⟨grown, .continued (grown.listed listed)⟩
  | @settle p a report waits orderly =>
    -- The copy in the pass was queued at some time, so a letter that is made of it is nothing new.
    have grown := kept.grow (Occurrence.atEnd p.rest ++ [.answered p.current a]) fun c => by simp
    have told := carried.grow (Occurrence.atEnd p.rest ++ [.answered p.current a]) p waits
    rw [Stock.continued_queue, Stock.continued_letters]
    refine ⟨grown.settle (told _ List.mem_cons_self) policy now (by simp), .continued ?_⟩
    exact fun m member => told m (List.mem_cons_of_mem _ member)
  | panic waits => exact ⟨kept.grow _ (by simp), fun p none => by cases none⟩

/-! ## Engines on one file -/

/-- A disk, the engines that have the database in one of its files open, and what was done with
them. An engine may be dropped, or left alone with a pass in progress, while another one is
started. -/
structure World where
  disk : Disk
  engines : List Engine
  past : List Occurrence

namespace World

/-- The engine as it finds the disk. -/
def mounted (e : Engine) (disk : Disk) : Engine :=
  { e with storage := { e.storage with disk := disk } }

/-- Starts an engine. One that cannot be started leaves the disk as opening the store left it. -/
def launch (w : World) (c : Config) (listener : Option Listener) (history : List LogLine)
    (revision : String) (now : Instant) : World :=
  match Engine.start c w.disk listener history revision now with
  | .ready e => { w with disk := e.storage.disk, engines := w.engines ++ [e] }
  | .refused _ | .panicked =>
    match c.validate with
    | .ok () => { w with disk := ((Storage.closed w.disk (.ofConfig c)).ensureOpen now).1.disk }
    | .error _ => w

/-- Drops the engine at a position. -/
def drop (w : World) (position : Nat) : World :=
  { w with engines := w.engines.eraseIdx position }

/-- Makes a move with the engine at a position. -/
def act (w : World) (position : Nat) (now : Instant) (move : Move) : World :=
  match w.engines[position]? with
  | none => w
  | some e =>
    let (e, past) := (mounted e w.disk).perform now move
    ⟨e.storage.disk, w.engines.set position e, past ++ w.past⟩

/-- The content of the file. -/
def database (w : World) (path : String) : Database :=
  (w.disk.database? (Disk.fullPath path)).getD .empty

end World

/-- A move gives an id that was not given before, to a payload that is read back as it was
written. -/
def Move.IsNew (past : List Occurrence) (move : Move) : Prop :=
  ∀ c ∈ move.change?, (∀ c', .queued c' ∈ past → c'.id ≠ c.id) ∧ c.payload.Faithful

theorem Move.IsNew.isFresh {past : List Occurrence} {queue letters : List Row} {move : Move}
    (new : move.IsNew past) (kept : Kept past queue letters) : move.IsFresh queue := by
  intro c queues taken
  obtain ⟨c', same, told⟩ := kept.queued_of_key taken
  exact (new c queues).1 c' told same

theorem Move.IsNew.areNew {past : List Occurrence} {move : Move} (new : move.IsNew past)
    (e : Engine)
    (now : Instant) : Occurrence.AreNew past (e.perform now move).2 := by
  intro c queued
  exact new c (Engine.change_of_queued queued)

/-- The worlds that come about from a disk without a database in the file of a path. -/
inductive World.Reachable (path : String) : World → Prop
  | start {disk : Disk} (new : disk.database? (Disk.fullPath path) = none) :
    Reachable path ⟨disk, [], []⟩
  | launch {w : World} (before : Reachable path w) {c : Config}
    (there : Location.ofConfig c = .file path) (listener : Option Listener)
    (history : List LogLine) (revision : String) (now : Instant) :
    Reachable path (w.launch c listener history revision now)
  | drop {w : World} (before : Reachable path w) (position : Nat) :
    Reachable path (w.drop position)
  | act {w : World} (before : Reachable path w) (position : Nat) (now : Instant) (move : Move)
    (new : move.IsNew w.past) : Reachable path (w.act position now move)

/-- The database that the engines share. -/
structure World.Shares (path : String) (w : World) (db : Database) : Prop where
  present : w.disk.database? (Disk.fullPath path) = some db
  healthy : db.Healthy
  kept : Kept w.past (db.rowsOf .queue) (db.rowsOf .deadLetters)
  linked : ∀ e ∈ w.engines, e.storage.link = some (some (Disk.fullPath path))
  carried : ∀ e ∈ w.engines, Carried w.past e.pass

/-- Nothing was done yet, or the engines share a database. -/
def World.Consistent (path : String) (w : World) : Prop :=
  (w.disk.database? (Disk.fullPath path) = none ∧ w.engines = [] ∧ w.past = []) ∨
    ∃ db, w.Shares path db

namespace World

variable {path : String} {w : World}

theorem disk_of_view {e : Engine} {full : List String} (linked : e.view.link = some (some full))
    (healthy : e.view.database.Healthy) :
    e.storage.disk.database? full = some e.view.database := by
  have content : e.view.database = (e.storage.disk.database? full).getD .empty := by
    change (e.storage.database?).getD .empty = _
    rw [Storage.database?_of_link linked]
    rfl
  cases there : e.storage.disk.database? full with
  | some db => rw [content, there, Option.getD_some]
  | none =>
    rw [there, Option.getD_none] at content
    rw [content] at healthy
    cases healthy.table .queue rfl

/-- Opening the store keeps what there is, or makes a new database. -/
theorem Consistent.opened (consistent : w.Consistent path) {disk : Disk} {now : Instant}
    (prepared : disk.database? (Disk.fullPath path) =
      some (((w.disk.database? (Disk.fullPath path)).getD .empty).prepare now).1) :
    ∃ db, World.Shares path { w with disk := disk } db := by
  -- Either the file is new and nothing was queued yet, or its database is only migrated.
  rcases consistent with ⟨none, idle, fresh⟩ | ⟨db, shares⟩
  · obtain ⟨db, lines, run, healthy, rows⟩ := Database.prepare_empty now
    rw [none, Option.getD_none, run] at prepared
    refine ⟨db, prepared, healthy, ?_, by simp [idle], by simp [idle]⟩
    rw [rows .queue rfl, rows .deadLetters rfl, fresh]
    exact .nil
  · rw [shares.present, Option.getD_some] at prepared
    have keeps := Database.Keeps.prepare db now
    refine ⟨_, prepared, keeps.healthy shares.healthy, ?_, shares.linked, shares.carried⟩
    rw [keeps.rows .queue rfl, keeps.rows .deadLetters rfl]
    exact shares.kept

theorem Consistent.unopened (consistent : w.Consistent path) {disk : Disk}
    (same : disk.database? (Disk.fullPath path) = w.disk.database? (Disk.fullPath path)) :
    World.Consistent path { w with disk := disk } := by
  refine consistent.imp (fun h => ⟨same.trans h.1, h.2⟩) fun ⟨db, shares⟩ => ⟨db, ?_⟩
  exact ⟨same.trans shares.present, shares.healthy, shares.kept, shares.linked, shares.carried⟩

theorem Consistent.launch (consistent : w.Consistent path) {c : Config}
    (there : Location.ofConfig c = .file path) (listener : Option Listener)
    (history : List LogLine) (revision : String) (now : Instant) :
    (w.launch c listener history revision now).Consistent path := by
  obtain ⟨s, lines, result, opened, what⟩ := Storage.ensureOpen_file w.disk path now
  -- A start that fails may still have made or migrated the database.
  have refused : World.Consistent path (match c.validate with
      | .ok () =>
        { w with disk := ((Storage.closed w.disk (.ofConfig c)).ensureOpen now).1.disk }
      | .error _ => w) := by
    split
    · rw [there, opened]
      exact what.elim (fun h => consistent.unopened h.1) fun h => .inr (consistent.opened h.1)
    · exact consistent
  unfold World.launch
  split
  next e started =>
    obtain ⟨storage, lines', opened', linked, content, idle⟩ := Engine.store_of_start started
    rw [there, opened] at opened'
    cases opened'
    obtain ⟨-, fault, none⟩ | ⟨prepared, link⟩ := what
    · cases none
    · have linked := linked.trans (link rfl)
      obtain ⟨db, shares⟩ := consistent.opened prepared
      have same : e.view.database = db := by
        rw [content, Storage.database?_of_link (link rfl), shares.present]
        rfl
      have present := disk_of_view linked (same ▸ shares.healthy)
      rw [same] at present
      refine .inr ⟨db, present, shares.healthy, shares.kept, ?_, ?_⟩
      · intro e' member
        rcases List.mem_append.mp member with old | last
        · exact shares.linked e' old
        · rw [List.mem_singleton.mp last]
          exact linked
      · intro e' member
        rcases List.mem_append.mp member with old | last
        · exact shares.carried e' old
        · rw [List.mem_singleton.mp last]
          intro p waits
          cases waits.symm.trans idle
  · exact refused
  · exact refused

theorem Consistent.act (consistent : w.Consistent path) (position : Nat) (now : Instant)
    {move : Move} (new : move.IsNew w.past) : (w.act position now move).Consistent path := by
  unfold World.act
  cases there : w.engines[position]? with
  | none => exact consistent
  | some e =>
    have member := List.mem_of_getElem? there
    rcases consistent with ⟨-, idle, -⟩ | ⟨db, shares⟩
    · simp [idle] at member
    · have linked : (mounted e w.disk).view.link = some (some (Disk.fullPath path)) :=
        shares.linked e member
      have content : (mounted e w.disk).view.database = db := by
        change ((mounted e w.disk).storage.database?).getD .empty = db
        rw [Storage.database?_of_link linked]
        change (some ((w.disk.database? _).getD .empty)).getD .empty = db
        rw [shares.present]
        rfl
      have sound : (mounted e w.disk).view.Sound :=
        ⟨by rw [linked]; rfl, content ▸ shares.healthy⟩
      have kept : Kept w.past (mounted e w.disk).view.queueRows
          (mounted e w.disk).view.letterRows := by
        rw [View.queueRows, View.letterRows, content]
        exact shares.kept
      -- Mounted on the shared disk the engine is sound, so its move shifts the shared stock.
      have moved := Engine.perform_moves sound now (new.isFresh kept)
      obtain ⟨kept', carried'⟩ := moved.shift.kept kept (shares.carried e member)
        (new.areNew (mounted e w.disk) now)
      have linked' := moved.link.trans linked
      refine .inr ⟨_, disk_of_view linked' moved.healthy, moved.healthy, kept', ?_, ?_⟩
      · intro e' present
        rcases List.mem_or_eq_of_mem_set present with old | rfl
        · exact shares.linked e' old
        · exact linked'
      · intro e' present
        rcases List.mem_or_eq_of_mem_set present with old | rfl
        · exact (shares.carried e' old).grow _
        · exact carried'

theorem Reachable.consistent (reachable : w.Reachable path) : w.Consistent path := by
  induction reachable with
  | start new => exact .inl ⟨new, rfl, rfl⟩
  | launch _ there listener history revision now ih =>
    exact ih.launch there listener history revision now
  | drop _ position ih =>
    refine ih.imp (fun h => ⟨h.1, ?_, h.2.2⟩) fun ⟨db, shares⟩ => ⟨db, ?_⟩
    · simp [World.drop, h.2.1]
    · exact ⟨shares.present, shares.healthy, shares.kept,
        fun e member => shares.linked e (List.mem_of_mem_eraseIdx member),
        fun e member => shares.carried e (List.mem_of_mem_eraseIdx member)⟩
  | act _ position now move new ih => exact ih.act position now new

end World

/-! ## Where a change is -/

/-- In every reachable world no id is in the queue and among the dead letters, and a change that
was queued, was never removed by hand and was never confirmed is found in exactly one of the two,
with all that it was queued with. -/
theorem outstanding_in_one_table {path : String} {w : World} (reachable : w.Reachable path) :
    (∀ id, .text id ∈ keysOf ((w.database path).rowsOf .queue) →
      .text id ∉ keysOf ((w.database path).rowsOf .deadLetters)) ∧
    ∀ c, Outstanding w.past c →
      (∃ m, (w.database path).mutation? c.id = .ok (some m) ∧ m.change = c ∧
        (w.database path).deadLetter? c.id = .ok none) ∨
      (∃ l, (w.database path).deadLetter? c.id = .ok (some l) ∧ l.mutation.change = c ∧
        (w.database path).mutation? c.id = .ok none) := by
  rcases reachable.consistent with ⟨none, -, idle⟩ | ⟨db, shares⟩
  · -- Without a database nothing was queued.
    have empty : w.database path = .empty := by
      rw [World.database, none]
      rfl
    rw [empty, idle]
    exact ⟨fun _ h => (by cases h), fun c out => (by cases out.queued)⟩
  · have same : w.database path = db := by
      rw [World.database, shares.present]
      rfl
    rw [same]
    refine ⟨shares.kept.apart, fun c out => ?_⟩
    rcases shares.kept.somewhere c out with queued | buried
    · obtain ⟨m, found, change⟩ := shares.kept.mutation? shares.healthy out.queued queued
      have absent := shares.healthy.deadLetter?_of_absent (shares.kept.apart c.id queued)
      exact .inl ⟨m, found, change, absent⟩
    · obtain ⟨l, found, change⟩ := shares.kept.deadLetter? shares.healthy out.queued buried
      have absent := shares.healthy.mutation?_of_absent fun queued =>
        shares.kept.apart c.id queued buried
      exact .inr ⟨l, found, change, absent⟩

namespace World

/-- The configuration of an engine on a disk. -/
def sampleConfig : Config :=
  { Config.default "/data" with remoteUrl := "http://[::1]:8080/api" }

def sampleChange : Change :=
  ⟨"m1", .create, .incidents, "i1", .obj [("title", .str "leak")]⟩

/-- A new engine has just queued its first change. -/
def sampleBefore : World :=
  (launch ⟨.withRoot "data", [], []⟩ sampleConfig none [] "" .epoch).act 0 .epoch
    (.enqueue sampleChange)

/-- The change was sent and refused, while a second engine was started on the same file. -/
def sampleAfter : World :=
  ((sampleBefore.act 0 .epoch .process).launch sampleConfig none [] "" .epoch).act 0 .epoch
    (.answer (.failed (.permanent (some 422) "invalid")))

end World

/-- The theorem at a change that is refused in the middle of another start. -/
theorem refused_change_in_one_table :
    World.sampleAfter.Reachable "/data/offline_sync.db" ∧
      Outstanding World.sampleAfter.past World.sampleChange ∧
      ((∃ m, (World.sampleAfter.database "/data/offline_sync.db").mutation? "m1" = .ok (some m) ∧
          m.change = World.sampleChange ∧
          (World.sampleAfter.database "/data/offline_sync.db").deadLetter? "m1" = .ok none) ∨
        (∃ l, (World.sampleAfter.database "/data/offline_sync.db").deadLetter? "m1" =
            .ok (some l) ∧ l.mutation.change = World.sampleChange ∧
          (World.sampleAfter.database "/data/offline_sync.db").mutation? "m1" = .ok none)) := by
  have there : Location.ofConfig World.sampleConfig = .file "/data/offline_sync.db" := by
    decide +kernel
  have empty : (Disk.withRoot "data").database? (Disk.fullPath "/data/offline_sync.db") = none := by
    decide +kernel
  have idle : (World.launch ⟨.withRoot "data", [], []⟩ World.sampleConfig none [] "" .epoch).past =
      [] := by decide +kernel
  have new : (Move.enqueue World.sampleChange).IsNew
      (World.launch ⟨.withRoot "data", [], []⟩ World.sampleConfig none [] "" .epoch).past := by
    rw [idle]
    intro c queues
    cases queues
    exact ⟨by simp, rfl⟩
  have queued : World.sampleBefore.Reachable "/data/offline_sync.db" :=
    .act (.launch (.start empty) there none [] "" .epoch) 0 .epoch _ new
  have reachable : World.sampleAfter.Reachable "/data/offline_sync.db" :=
    .act (.launch (.act queued 0 .epoch .process nofun) there none [] "" .epoch) 0 .epoch
      (.answer _) nofun
  have past : World.sampleAfter.past =
      [.ended, .answered (World.sampleChange.fresh .epoch)
        (.failed (.permanent (some 422) "invalid")), .began, .queued World.sampleChange] := by
    decide +kernel
  have out : Outstanding World.sampleAfter.past World.sampleChange := by
    rw [past]
    exact ⟨by simp, by simp, by simp⟩
  exact ⟨reachable, out, (outstanding_in_one_table reachable).2 _ out⟩

end Outbox
