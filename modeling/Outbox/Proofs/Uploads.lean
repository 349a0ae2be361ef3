import Outbox.Engine.Records
import Outbox.Proofs.Nesting
import Outbox.Proofs.Standing

/-!
# Files that wait to be uploaded

Files wait in a table of their own, in the order in which they were put there. They are never
changed, so the rows are, one by one, what was written for the files that wait.
-/
namespace Outbox

open Table Time

/-- What is done with the files that wait. -/
inductive Filing where
  | add (id : String) (bytes : List UInt8) (metadata : Json)
  | remove (id : String)

/-- A new file goes behind all others, unless its id is taken. -/
def Filing.apply (now : Instant) (pending : List PendingUpload) : Filing → List PendingUpload
  | .add id bytes metadata =>
    if id ∈ pending.map (·.id) then pending else pending ++ [⟨id, bytes, metadata, now⟩]
  | .remove id => pending.filter fun u => u.id != id

/-- The files that wait after some were put there and others were taken away. -/
def pendingAfter (pending : List PendingUpload) (steps : List (Instant × Filing)) :
    List PendingUpload :=
  steps.foldl (fun pending step => step.2.apply step.1 pending) pending

namespace Engine

def file (e : Engine) (now : Instant) : Filing → Engine
  | .add id bytes metadata => (e.addUpload ⟨id, bytes, metadata, now⟩ now).1
  | .remove id => (e.change now fun db => db.deleteUpload id).1

def fileAll (e : Engine) (steps : List (Instant × Filing)) : Engine :=
  steps.foldl (fun e step => e.file step.1 step.2) e

end Engine

/-! ## Rows of files -/

namespace PendingUpload

/-- What a file is read back as has the same content. -/
theorem ofRow_of_cells {r : Row} {u : PendingUpload} (cells : r.cells = u.toRow) {v : Json}
    (parsed : Json.parse u.metadata.text = .ok v) :
    PendingUpload.ofRow r = .ok ⟨u.id, u.bytes, v, .ofMillis u.enqueuedAt.toMillis⟩ := by
  obtain ⟨number, _⟩ := r
  obtain rfl := cells
  have metadata : parsePayload u.metadata.text = .ok v := parsePayload_eq_ok_iff.mpr parsed
  simp only [ofRow, Row.cell, toRow, List.getElem?_cons_zero, List.getElem?_cons_succ,
    Option.getD_some, Place.text, Place.blob, Place.integer, Error.ofTable]
  change (parsePayload u.metadata.text >>= _) = _
  rw [metadata]
  rfl

variable {rows : List Row} {pending : List PendingUpload}

theorem mem_keysOf_iff (same : rows.map (·.cells) = pending.map toRow) {id : String} :
    .text id ∈ keysOf rows ↔ id ∈ pending.map (·.id) := by
  have keys : keysOf rows = pending.map fun u => .text u.id := by
    have first := congrArg (List.map fun cells : List Cell => (cells[0]?).getD .null) same
    rw [List.map_map, List.map_map] at first
    exact first
  rw [keys]
  simp

theorem cells_without (same : rows.map (·.cells) = pending.map toRow) (id : String) :
    (without id rows).map (·.cells) = (pending.filter fun u => u.id != id).map toRow := by
  induction pending generalizing rows with
  | nil =>
    obtain rfl := List.map_eq_nil_iff.mp same
    rfl
  | cons u pending ih =>
    obtain ⟨r, rest, rfl, cells, others⟩ := List.map_eq_cons_iff.mp same
    have keyed : r.hasKey id = true ↔ u.id = id := by
      rw [Row.hasKey_iff, Row.cell, cells]
      exact ⟨Cell.text.inj, congrArg Cell.text⟩
    have behind := ih others
    rw [without] at behind ⊢
    by_cases gone : u.id = id
    · rw [List.filter_cons_of_neg (by simp [keyed.mpr gone]),
        List.filter_cons_of_neg (by simp [gone])]
      exact behind
    · rw [List.filter_cons_of_pos (by simp [mt keyed.mp gone]),
        List.filter_cons_of_pos (by simp [gone]), List.map_cons, List.map_cons, cells, behind]

/-- Files are read back unless what is noted of one of them nests too deeply. -/
theorem mapM_ofRow (same : rows.map (·.cells) = pending.map toRow)
    (shallow : ∀ u ∈ pending, u.metadata.depth < Json.nestingLimit) :
    ∃ uploads, rows.mapM PendingUpload.ofRow = .ok uploads ∧
      uploads.map (fun u => (u.id, u.bytes)) = pending.map fun u => (u.id, u.bytes) := by
  induction pending generalizing rows with
  | nil =>
    obtain rfl := List.map_eq_nil_iff.mp same
    exact ⟨[], rfl, rfl⟩
  | cons u pending ih =>
    obtain ⟨r, rest, rfl, cells, others⟩ := List.map_eq_cons_iff.mp same
    obtain ⟨v, -, parsed⟩ := Json.exists_parse_text (shallow u List.mem_cons_self)
    have behind : ∀ w ∈ pending, w.metadata.depth < Json.nestingLimit :=
      fun w member => shallow w (List.mem_cons_of_mem _ member)
    obtain ⟨uploads, read, content⟩ := ih others behind
    have first := ofRow_of_cells cells parsed
    refine ⟨_ :: uploads, mapM_cons_eq_ok_iff.mpr ⟨_, uploads, first, read, rfl⟩, ?_⟩
    rw [List.map_cons, content]
    rfl

end PendingUpload

/-! ## Engines -/

/-- The files that wait are those whose rows are in the table, in the order in which they came. -/
structure Filed (clock : Instant) (pending : List PendingUpload) (e : Engine) : Prop where
  sound : e.view.Sound
  unguarded : e.view.database.Unguarded .uploads
  standing : Standing 3 clock.toMillis (e.view.database.rowsOf .uploads)
  rows : (e.view.database.rowsOf .uploads).map (·.cells) = pending.map PendingUpload.toRow

namespace Filed

variable {clock now : Instant} {pending : List PendingUpload} {e : Engine}

/-- A statement on the table of files leaves all else as it is. -/
theorem withRows (filed : Filed clock pending e) {e' : Engine} {rows : List Row}
    (view : e'.view = e.view.withDatabase (e.view.database.withRows .uploads rows))
    {more : List PendingUpload} (standing : Standing 3 now.toMillis rows)
    (cells : rows.map (·.cells) = more.map PendingUpload.toRow) : Filed now more e' := by
  have database : e'.view.database = e.view.database.withRows .uploads rows := by rw [view]; rfl
  refine ⟨?_, ?_, ?_, ?_⟩
  · rw [view]
    exact filed.sound.withDatabase (filed.sound.healthy.withRows _ _)
  · rw [database]
    exact .withRows _ _ _
  · rw [database, Database.rowsOf_withRows_self]
    exact standing
  · rw [database, Database.rowsOf_withRows_self]
    exact cells

theorem add (filed : Filed clock pending e) (later : clock.toMillis ≤ now.toMillis)
    (u : PendingUpload) (time : u.enqueuedAt = now) :
    Filed now (if u.id ∈ pending.map (·.id) then pending else pending ++ [u])
      (e.addUpload u now).1 := by
  have taken_iff : .text u.id ∈ keysOf (e.view.database.rowsOf .uploads) ↔
      u.id ∈ pending.map (·.id) := PendingUpload.mem_keysOf_iff filed.rows
  by_cases taken : u.id ∈ pending.map (·.id)
  · -- The key is taken, so the statement is refused and nothing changes.
    rw [if_pos taken]
    obtain ⟨fault, refused⟩ : ∃ fault, e.view.database.insert .uploads u.toRow = .error fault :=
      filed.unguarded.insert_of_taken rfl rfl (taken_iff.mpr taken)
    obtain ⟨e', run, view⟩ := Engine.change_of_refused filed.sound now
      (fun db => (db.insertUpload u).map fun db => (db, ())) (by
        rw [Database.insertUpload, refused]
        rfl)
    simp only [Engine.addUpload, run]
    refine ⟨?_, ?_, ?_, ?_⟩ <;> rw [view]
    · exact filed.sound
    · exact filed.unguarded
    · exact filed.standing.later later
    · exact filed.rows
  · rw [if_neg taken]
    have inserted : e.view.database.insert .uploads u.toRow = _ :=
      filed.unguarded.insert rfl rfl (mt taken_iff.mp taken)
    obtain ⟨e', run, view⟩ := Engine.change_yields filed.sound now
      (fun db => (db.insertUpload u).map fun db => (db, ())) (x := ()) (by
        rw [Database.insertUpload, inserted]
        rfl)
    simp only [Engine.addUpload, run]
    refine filed.withRows ((Engine.view_log _ _).trans view) ?_ ?_
    · exact filed.standing.added later (by rw [← time]; rfl)
    · rw [added, List.map_append, filed.rows, List.map_append]
      rfl

theorem remove (filed : Filed clock pending e) (later : clock.toMillis ≤ now.toMillis)
    (id : String) :
    Filed now (pending.filter fun u => u.id != id)
      (e.change now fun db => db.deleteUpload id).1 := by
  have deleted : e.view.database.deleteKey .uploads id = _ := filed.unguarded.deleteKey id
  obtain ⟨e', run, view⟩ := Engine.change_yields filed.sound now (fun db => db.deleteUpload id) (by
    rw [Database.deleteUpload, deleted]
    rfl)
  rw [run]
  refine filed.withRows view ?_ (PendingUpload.cells_without filed.rows id)
  exact (filed.standing.later later).sublist List.filter_sublist

theorem file (filed : Filed clock pending e) (later : clock.toMillis ≤ now.toMillis)
    (f : Filing) : Filed now (f.apply now pending) (e.file now f) := by
  cases f with
  | add id bytes metadata => exact filed.add later ⟨id, bytes, metadata, now⟩ rfl
  | remove id => exact filed.remove later id

theorem fileAll (filed : Filed clock pending e) {steps : List (Instant × Filing)}
    (later : ∀ step ∈ steps, clock.toMillis ≤ step.1.toMillis)
    (clocked : steps.Pairwise fun a b => a.1.toMillis ≤ b.1.toMillis) :
    ∃ clock, Filed clock (pendingAfter pending steps) (e.fileAll steps) := by
  induction steps generalizing clock pending e with
  | nil => exact ⟨clock, filed⟩
  | cons step steps ih =>
    obtain ⟨first, rest⟩ := List.pairwise_cons.mp clocked
    exact ih (filed.file (later step List.mem_cons_self) step.2) first rest

end Filed

/-- Files that are put into an empty table and taken away again, while the clock does not go back,
are listed in the order in which they came, as long as what is noted of them can be read. -/
theorem uploads_listed_in_order {e : Engine} (sound : e.view.Sound)
    (unguarded : e.view.database.Unguarded .uploads)
    (empty : e.view.database.rowsOf .uploads = []) {steps : List (Instant × Filing)}
    (clocked : steps.Pairwise fun a b => a.1.toMillis ≤ b.1.toMillis)
    (shallow : ∀ u ∈ pendingAfter [] steps, u.metadata.depth < Json.nestingLimit)
    (now : Instant) :
    ∃ uploads, ((e.fileAll steps).query now Database.allUploads).2 = .ok uploads ∧
      uploads.map (fun u => (u.id, u.bytes)) =
        (pendingAfter [] steps).map fun u => (u.id, u.bytes) := by
  have start (clock : Instant) : Filed clock [] e :=
    ⟨sound, unguarded, empty ▸ .nil, by rw [empty]; rfl⟩
  obtain ⟨clock, filed⟩ : ∃ clock, Filed clock (pendingAfter [] steps) (e.fileAll steps) := by
    cases steps with
    | nil => exact ⟨.epoch, start .epoch⟩
    | cons step steps =>
      -- The table is empty, so the clock may as well start with the first step.
      apply (start step.1).fileAll _ clocked
      intro other member
      rcases List.mem_cons.mp member with rfl | behind
      · exact le_rfl
      · exact (List.pairwise_cons.mp clocked).1 other behind
  obtain ⟨uploads, read, content⟩ := PendingUpload.mapM_ofRow filed.rows shallow
  obtain ⟨e', run, -⟩ := Engine.query_yields filed.sound now Database.allUploads
  refine ⟨uploads, ?_, content⟩
  rw [run, Database.allUploads, filed.unguarded.selectAll, filed.standing.sorted]
  exact read

end Outbox
