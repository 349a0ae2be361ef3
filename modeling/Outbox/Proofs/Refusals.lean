import Outbox.Proofs.PassReference
import Outbox.Proofs.Steps

/-!
# Refused write-backs

After an answer the engine writes back what became of the mutation: it removes it, writes its retry
state, or moves it to the dead letters. Nothing is known here about the tables, so the store may
refuse that. A write-back that is refused has changed nothing, and one that is not has changed the
rows of its own id as the reference says.

Whether it is refused depends on the guards, on which tables there are, on whether transactions can
be committed, and on the rows of its own id. No write-back for another id touches any of these, so
what the store refuses in a pass can be told before the pass begins.
-/
namespace Outbox

open Table Time

theorem isOk_bind {ε α β : Type} {x : Except ε α} {f : α → Except ε β}
    (succeeds : ∀ a, x = .ok a → (f a).isOk = true) : (x >>= f).isOk = x.isOk := by
  cases x with
  | error fault => rfl
  | ok a => exact succeeds a rfl

namespace Table

theorem isOk_delete (t : Table) (selects : Row → Bool) :
    (t.delete selects).isOk = !t.rows.any fun r => selects r && t.refuses .delete r.cells := by
  unfold delete
  split
  next refused => rw [refused]; rfl
  next free => rw [Bool.eq_false_iff.mpr free]; rfl

theorem isOk_update (t : Table) (selects : Row → Bool) (change : List Cell → List Cell) :
    (t.update selects change).isOk =
      !t.rows.any fun r => selects r && t.refuses .update r.cells := by
  unfold update
  split
  next refused => rw [refused]; rfl
  next free => rw [Bool.eq_false_iff.mpr free]; rfl

/-- A row that is added or merged is refused by the guards of new rows, or by those of the row that
has its key. -/
theorem isOk_upsert {t : Table} {name : TableName} {id : String} {cells : List Cell}
    {merge : List Cell → List Cell → List Cell}
    (complete : missingColumn? name.columns cells = none) (key : cells.headD .null = .text id) :
    (t.upsert name cells merge).isOk =
      !(t.refuses .insert cells ||
        t.rows.any fun r => r.hasKey id && t.refuses .update r.cells) := by
  rw [upsert, checkNew, complete, key]
  cases t.refuses .insert cells with
  | true => rfl
  | false =>
    rw [Bool.false_or]
    cases found : t.find? (.text id) with
    | some r => exact t.isOk_update (·.hasKey id) fun old => merge old cells
    | none =>
      -- No row has the key, so no guard is asked about one.
      have absent : (t.rows.any fun r => r.hasKey id && t.refuses .update r.cells) = false := by
        refine List.any_eq_false.mpr fun r member => ?_
        have other : r.hasKey id = false :=
          Bool.eq_false_iff.mpr (List.find?_eq_none.mp found r member)
        simp [other]
      rw [absent]
      rfl

end Table

namespace Database

variable {db db' : Database} {name : TableName} {action : Action} {id : String}

/-! ## What stands in the way of a statement -/

/-- Whether a statement on a row with these cells is refused: by a guard, or since the table is
missing. -/
def refuses (db : Database) (name : TableName) (action : Action) (cells : List Cell) : Bool :=
  match db.get? name with
  | some t => t.refuses action cells
  | none => true

/-- Whether a statement on the rows of an id is refused. -/
def refusesId (db : Database) (name : TableName) (action : Action) (id : String) : Bool :=
  (db.get? name).isNone ||
    (db.rowsOf name).any fun r => r.hasKey id && db.refuses name action r.cells

theorem refusesId_eq (db : Database) (name : TableName) (action : Action) (id : String) :
    db.refusesId name action id =
      ((db.get? name).map fun t =>
        t.rows.any fun r => r.hasKey id && t.refuses action r.cells).getD true := by
  rw [refusesId, rowsOf]
  simp only [refuses]
  cases db.get? name <;> rfl

/-- A statement fails if its table is missing, and otherwise if it fails there. -/
theorem isOk_of_table {α : Type} {f : Table → Except Fault α} {refused : Table → Bool}
    (onTable : ∀ t, db.get? name = some t → (f t).isOk = !refused t) :
    (db.table name >>= f).isOk = !((db.get? name).map refused).getD true := by
  cases there : db.get? name with
  | none =>
    have missing : db.table name = .error (.noSuchTable name.name) := by rw [table, there]
    rw [missing]
    rfl
  | some t =>
    have found : db.table name = .ok t := by rw [table, there]
    rw [found, Option.map_some, Option.getD_some, ← onTable t there]
    rfl

theorem isOk_deleteKey (db : Database) (name : TableName) (id : String) :
    (db.deleteKey name id).isOk = !db.refusesId name .delete id := by
  rw [deleteKey, isOk_bind fun _ _ => rfl, delete, refusesId_eq]
  refine isOk_of_table fun t _ => ?_
  rw [isOk_bind fun _ _ => rfl]
  exact t.isOk_delete _

theorem isOk_updateKey (db : Database) (name : TableName) (id : String)
    (change : List Cell → List Cell) :
    (db.update name (.text id) change).isOk = !db.refusesId name .update id := by
  rw [update, refusesId_eq]
  refine isOk_of_table fun t _ => ?_
  rw [isOk_bind fun _ _ => rfl]
  exact t.isOk_update _ _

theorem isOk_upsert {cells : List Cell} {positions : List Nat}
    (complete : missingColumn? name.columns cells = none) (key : cells.headD .null = .text id) :
    (db.upsert name cells positions).isOk =
      !(db.refuses name .insert cells || db.refusesId name .update id) := by
  have either : (db.refuses name .insert cells || db.refusesId name .update id) =
      ((db.get? name).map fun t => t.refuses .insert cells ||
        t.rows.any fun r => r.hasKey id && t.refuses .update r.cells).getD true := by
    rw [refusesId_eq, refuses]
    cases db.get? name <;> rfl
  rw [upsert, either]
  refine isOk_of_table fun t _ => ?_
  rw [isOk_bind fun _ _ => rfl]
  exact t.isOk_upsert complete key

/-- No guard, no missing table: nothing is refused. -/
theorem Unguarded.refusesId (unguarded : db.Unguarded name) :
    db.refusesId name action id = false := by
  rw [refusesId_eq, show db.get? name = _ from unguarded, Option.map_some, Option.getD_some]
  exact none_refused _ _ _

/-! ## What a refusal depends on -/

/-- Two databases agree on an id: they have the same tables with the same guards, in both or in
neither of them transactions can be committed, and the queue and the dead letters have the same rows
of the id. -/
structure AgreeOn (id : String) (db db' : Database) : Prop where
  guarded : db'.guardsOf? = db.guardsOf?
  full : db'.isFull = db.isFull
  queue : (db'.rowsOf .queue).filter (·.hasKey id) = (db.rowsOf .queue).filter (·.hasKey id)
  letters : (db'.rowsOf .deadLetters).filter (·.hasKey id) =
    (db.rowsOf .deadLetters).filter (·.hasKey id)

theorem refuses_congr (guarded : db'.guardsOf? = db.guardsOf?) (cells : List Cell) :
    db'.refuses name action cells = db.refuses name action cells := by
  have same := congrFun guarded name
  rw [guardsOf?, guardsOf?] at same
  rw [refuses, refuses]
  cases there : db.get? name with
  | none =>
    rw [there] at same
    rw [Option.map_eq_none_iff.mp same]
  | some t =>
    rw [there] at same
    obtain ⟨t', there', guards⟩ := Option.map_eq_some_iff.mp same
    rw [there']
    simp only [Table.refuses, guards]

theorem refusesId_congr (guarded : db'.guardsOf? = db.guardsOf?)
    (rows : (db'.rowsOf name).filter (·.hasKey id) = (db.rowsOf name).filter (·.hasKey id)) :
    db'.refusesId name action id = db.refusesId name action id := by
  have missing : (db'.get? name).isNone = (db.get? name).isNone := by
    have same := congrArg Option.isNone (congrFun guarded name)
    rwa [guardsOf?, guardsOf?, Option.isNone_map, Option.isNone_map] at same
  rw [refusesId, refusesId, missing, ← List.any_filter, ← List.any_filter, rows]
  simp only [refuses_congr guarded]

/-! ## Operations that are refused -/

theorem isOk_ofTable {α : Type} (x : Except Table.Fault α) : (Error.ofTable x).isOk = x.isOk := by
  cases x <;> rfl

theorem isOk_deleteMutation (db : Database) (id : String) :
    (db.deleteMutation id).isOk = !db.refusesId .queue .delete id := by
  rw [deleteMutation, isOk_ofTable, isOk_deleteKey]

theorem rewrites_of_deleteMutation {id : String} {left : Database × Bool}
    (deleted : db.deleteMutation id = .ok left) :
    Rewrites db left.1 .queue (without id (db.rowsOf .queue)) := by
  obtain ⟨after, found⟩ := left
  exact rewrites_of_deleteKey (Error.ofTable_eq_ok_iff.mp deleted)

/-- Where rows may be counted, a mutation that was removed is counted out. -/
theorem isOk_dequeue (countable : db.Countable) (id : String) :
    (db.dequeue id).2.isOk = !db.refusesId .queue .delete id := by
  rw [← isOk_deleteMutation, dequeue]
  cases deleted : db.deleteMutation id with
  | error fault => rfl
  | ok left =>
    have delete := rewrites_of_deleteMutation deleted
    obtain ⟨t, there⟩ := delete.present
    simp only [(countable.fewer delete.guards).countMutations there]
    rfl

theorem isOk_updateRetryState (db : Database) (m : Mutation) :
    (db.updateRetryState m).isOk = !db.refusesId .queue .update m.id := by
  rw [updateRetryState, isOk_ofTable, isOk_updateKey]

theorem isOk_bury (countable : db.Countable) (l : DeadLetter) :
    (db.bury l).2.isOk =
      !(db.refuses .deadLetters .insert l.toRow ||
        db.refusesId .deadLetters .update l.mutation.id ||
        db.refusesId .queue .delete l.mutation.id || db.isFull) := by
  have filing : (db.insertDeadLetter l).isOk = !(db.refuses .deadLetters .insert l.toRow ||
      db.refusesId .deadLetters .update l.mutation.id) := by
    rw [insertDeadLetter, isOk_ofTable, isOk_upsert rfl rfl]
  rw [Bool.not_or, Bool.not_or, ← filing, bury, transaction, atomically]
  cases inserted : db.insertDeadLetter l with
  | error fault => rfl
  | ok filed =>
    have file : Rewrites db filed .deadLetters
        (upserted [6, 7, 8] l.mutation.id l.toRow (db.rowsOf .deadLetters)) :=
      rewrites_of_upsert rfl (Error.ofTable_eq_ok_iff.mp inserted)
    -- The letter is in another table, so the queue refuses what it has refused before.
    have queue : filed.refusesId .queue .delete l.mutation.id =
        db.refusesId .queue .delete l.mutation.id :=
      refusesId_congr file.guarded (by rw [file.others _ (by simp)])
    rw [← queue, ← isOk_deleteMutation]
    simp only [bind, Except.bind]
    cases deleted : filed.deleteMutation l.mutation.id with
    | error fault => rfl
    | ok left =>
      have delete := rewrites_of_deleteMutation deleted
      obtain ⟨t, there⟩ := delete.present
      have counts := (countable.fewer (file.guards.trans delete.guards)).countMutations there
      have full : left.1.isFull = db.isFull := delete.full.trans file.full
      simp only [counts, commit, pure, Except.pure, full]
      cases db.isFull <;> rfl

end Database

namespace Exchange

variable {p : RetryPolicy} {x y : Exchange} {db db' : Database}

/-- Whether the write-back for an exchange is refused, told by what stands in its way. -/
def barred (x : Exchange) (db : Database) : Bool :=
  match x.failure with
  | none => db.refusesId .queue .delete x.sent.id
  | some (.transient _) => db.refusesId .queue .update x.sent.id
  | some (.permanent status reason) =>
    db.refuses .deadLetters .insert
        (DeadLetter.toRow
          ⟨x.sent.recordFailure (Failure.permanent status reason).message, x.time⟩) ||
      db.refusesId .deadLetters .update x.sent.id || db.refusesId .queue .delete x.sent.id ||
        db.isFull

theorem barred_congr (agree : db.AgreeOn x.sent.id db') : x.barred db' = x.barred db := by
  unfold barred
  rw [Database.refusesId_congr agree.guarded agree.queue,
    Database.refusesId_congr agree.guarded agree.queue,
    Database.refusesId_congr agree.guarded agree.letters, agree.full]
  simp only [Database.refuses_congr agree.guarded]

/-! ## Write-backs -/

/-- The database after an operation, and whether it went through. -/
def outcome {α : Type} (ran : Database × Except Error α) : Database × Bool := (ran.1, ran.2.isOk)

/-- What is written back for an exchange: the mutation leaves the queue, or its retry state is
written, or it is moved to the dead letters. -/
def writeBack (p : RetryPolicy) (x : Exchange) (db : Database) : Database × Bool :=
  match x.failure with
  | none => outcome (db.dequeue x.sent.id)
  | some (.transient reason) =>
    outcome (db.atomically fun db =>
      db.updateRetryState (x.sent.retained p (Failure.transient reason).message))
  | some (.permanent status reason) =>
    outcome (db.bury ⟨x.sent.recordFailure (Failure.permanent status reason).message, x.time⟩)

/-- Whether the store refuses the write-back. -/
def isRefused (p : RetryPolicy) (db : Database) (x : Exchange) : Bool := !(x.writeBack p db).2

theorem outcome_atomically {α : Type} (f : Database → Except Error (Database × α))
    (db : Database) : (outcome (db.atomically f)).2 = (f db).isOk := by
  rw [Database.atomically]
  cases f db <;> rfl

theorem isRefused_eq_barred (countable : db.Countable) (p : RetryPolicy) (x : Exchange) :
    x.isRefused p db = x.barred db := by
  rw [isRefused, writeBack, barred]
  rcases failed : x.failure with _ | reason | ⟨status, reason⟩
  · exact (congrArg (!·) (Database.isOk_dequeue countable _)).trans (Bool.not_not _)
  · rw [outcome_atomically, Database.isOk_updateRetryState, Bool.not_not, Mutation.retained_id]
  · exact (congrArg (!·) (Database.isOk_bury countable _)).trans (Bool.not_not _)

/-- What a write-back that goes through has done. -/
structure Written (p : RetryPolicy) (x : Exchange) (db db' : Database) : Prop where
  queue : db'.rowsOf .queue = (db.rowsOf .queue).filterMap (x.row? p)
  letters : db'.rowsOf .deadLetters = filed x.letter?.toList (db.rowsOf .deadLetters)
  guarded : db'.guardsOf? = db.guardsOf?
  full : db'.isFull = db.isFull
  fewer : db.FewerGuards db'

theorem Written.of_queue {rows : List Row} (rewrites : db.Rewrites db' .queue rows)
    (queue : (db.rowsOf .queue).filterMap (x.row? p) = rows) (unlettered : x.letter? = none) :
    Written p x db db' where
  queue := rewrites.rows.trans queue.symm
  letters := by
    rw [rewrites.others _ (by simp), unlettered]
    rfl
  guarded := rewrites.guarded
  full := rewrites.full
  fewer := rewrites.guards

/-- After a failure nothing is counted: the write-back changes nothing, or it changes the rows of
its own id as the reference says. -/
theorem writeBack_cases_of_failed (p : RetryPolicy) {failure : Failure}
    (failed : x.failure = some failure) :
    x.writeBack p db = (db, false) ∨
      ∃ db', x.writeBack p db = (db', true) ∧ Written p x db db' := by
  rcases failure with reason | ⟨status, reason⟩
  · -- The retry state is one statement in a transaction of its own.
    simp only [writeBack, failed]
    have unlettered : x.letter? = none := by rw [letter?, failed]
    rcases Database.atomically_cases (fun db => db.updateRetryState
        (x.sent.retained p (Failure.transient reason).message)) db with
      ⟨fault, run⟩ | ⟨db', found, run, done⟩
    · rw [run]
      exact .inl rfl
    · have update := Database.rewrites_of_update (Error.ofTable_eq_ok_iff.mp done)
      rw [Mutation.retained_id] at update
      rw [run]
      exact .inr ⟨_, rfl, .of_queue update (filterMap_row?_of_transient failed _) unlettered⟩
  · -- The letter, the removal and the count are one transaction, so a refusal undoes all of them.
    simp only [writeBack, failed]
    have gone : x.left? p = none := by rw [left?, failed]
    have letter : x.letter? =
        some ⟨x.sent.recordFailure (Failure.permanent status reason).message, x.time⟩ := by
      rw [letter?, failed]
      rfl
    rcases db.bury_cases ⟨x.sent.recordFailure (Failure.permanent status reason).message, x.time⟩
      with ⟨fault, run⟩ | ⟨db', pending, run, -⟩
    · rw [run]
      exact .inl rfl
    · obtain ⟨_, file, delete, -⟩ := Database.rewrites_of_bury run
      rw [run]
      refine .inr ⟨_, rfl, ?_, ?_, ?_, ?_, ?_⟩
      · rw [delete.rows, filterMap_row?_of_none gone]
        rfl
      · rw [delete.others _ (by simp), file.rows, letter]
        rfl
      · exact delete.guarded.trans file.guarded
      · exact delete.full.trans file.full
      · exact file.guards.trans delete.guards

/-- A removal from the queue, whatever comes of the count after it. -/
theorem Written.of_deleted (p : RetryPolicy) (confirmed : x.failure = none)
    {left : Database × Bool} (deleted : db.deleteMutation x.sent.id = .ok left) :
    Written p x db left.1 :=
  .of_queue (Database.rewrites_of_deleteMutation deleted)
    (filterMap_row?_of_none (by rw [left?, confirmed]) _) (by rw [letter?, confirmed])

/-- A write-back changes nothing, or it changes the rows of its own id as the reference says. -/
theorem writeBack_cases (countable : db.Countable) (p : RetryPolicy) (x : Exchange) :
    x.writeBack p db = (db, false) ∨
      ∃ db', x.writeBack p db = (db', true) ∧ Written p x db db' := by
  cases failed : x.failure with
  | none =>
    simp only [writeBack, failed, Database.dequeue]
    cases deleted : db.deleteMutation x.sent.id with
    | error fault => exact .inl rfl
    | ok left =>
      have delete := Database.rewrites_of_deleteMutation deleted
      obtain ⟨t, there⟩ := delete.present
      simp only [(countable.fewer delete.guards).countMutations there]
      exact .inr ⟨_, rfl, .of_deleted p failed deleted⟩
  | some failure => exact writeBack_cases_of_failed p failed

/-- In any database, a write-back leaves the rows as they are or as the reference says. -/
theorem unchanged_or_written (p : RetryPolicy) (x : Exchange) (db : Database) :
    (x.writeBack p db).1 = db ∨ Written p x db (x.writeBack p db).1 := by
  cases failed : x.failure with
  | none =>
    simp only [writeBack, failed, Database.dequeue]
    cases deleted : db.deleteMutation x.sent.id with
    | error fault => exact .inl rfl
    | ok left =>
      have written := Written.of_deleted p failed deleted
      exact .inr written
  | some failure =>
    have cases : x.writeBack p db = (db, false) ∨
        ∃ db', x.writeBack p db = (db', true) ∧ Written p x db db' :=
      writeBack_cases_of_failed p failed
    rcases cases with run | ⟨db', run, written⟩
    · exact .inl (congrArg Prod.fst run)
    · rw [run]
      exact .inr written

/-! ## Other ids -/

/-- The key of a row is not touched, so rows may be picked by their keys first. -/
theorem filter_filterMap_row? (keep : Cell → Bool) (rows : List Row) :
    (rows.filterMap (x.row? p)).filter (fun r => keep (r.cell 0)) =
      (rows.filter fun r => keep (r.cell 0)).filterMap (x.row? p) := by
  rw [List.filter_filterMap, List.filterMap_filter]
  refine List.filterMap_congr fun r _ => ?_
  cases stays : x.row? p r with
  | none => simp
  | some r' => rw [Option.filter_some, key_row? stays]

/-- Rows of other ids are what they were. -/
theorem filter_filterMap_row?_of_other (keep : Cell → Bool)
    (other : keep (.text x.sent.id) = false) (rows : List Row) :
    (rows.filterMap (x.row? p)).filter (fun r => keep (r.cell 0)) =
      rows.filter fun r => keep (r.cell 0) := by
  rw [filter_filterMap_row?]
  refine filterMap_row?_of_absent fun there => ?_
  obtain ⟨r, member, key⟩ := mem_keysOf.mp there
  have kept := (List.mem_filter.mp member).2
  rw [key, other] at kept
  cases kept

end Exchange

namespace Table

variable {positions : List Nat} {id : String} {cells : List Cell} {keep : Cell → Bool}

/-- Picking rows by their keys comes to the same before and after a row is changed. -/
theorem filter_replaced (kept : positions.contains 0 = false) (filled : cells ≠ [])
    (rows : List Row) :
    (replaced positions id cells rows).filter (fun r => keep (r.cell 0)) =
      replaced positions id cells (rows.filter fun r => keep (r.cell 0)) := by
  rw [replaced, List.filter_map, replaced]
  congr 1
  refine List.filter_congr fun r _ => ?_
  simp only [Function.comp]
  split
  · rw [Row.cell_overwrite_of_kept kept (List.length_pos_iff.mpr filled)]
  · rfl

theorem replaced_of_absent {rows : List Row} (absent : .text id ∉ keysOf rows) :
    replaced positions id cells rows = rows := by
  refine (List.map_congr_left fun r member => ?_).trans (List.map_id _)
  rw [if_neg fun keyed => absent (mem_keysOf.mpr ⟨r, member, Row.hasKey_iff.mp keyed⟩)]
  rfl

/-- Rows of other ids are what they were. -/
theorem filter_upserted_of_other (keep : Cell → Bool) (kept : positions.contains 0 = false)
    (key : cells[0]? = some (.text id)) (other : keep (.text id) = false) (rows : List Row) :
    (upserted positions id cells rows).filter (fun r => keep (r.cell 0)) =
      rows.filter fun r => keep (r.cell 0) := by
  have filled : cells ≠ [] := by
    rintro rfl
    cases key
  unfold upserted
  split
  · rw [filter_replaced kept filled]
    refine replaced_of_absent fun there => ?_
    obtain ⟨r, member, same⟩ := mem_keysOf.mp there
    have picked := (List.mem_filter.mp member).2
    rw [same, other] at picked
    cases picked
  · have new : (Row.mk (ofRows rows).nextNumber cells).cell 0 = .text id := by
      rw [Row.cell, key, Option.getD_some]
    rw [added, List.filter_append, List.filter_singleton, new, other]
    simp

end Table

namespace Exchange

variable {p : RetryPolicy} {x y : Exchange} {xs : List Exchange} {db db' : Database}

theorem letter_id {l : DeadLetter} (letter : x.letter? = some l) : l.mutation.id = x.sent.id := by
  unfold letter? at letter
  split at letter
  · cases letter
    rfl
  · cases letter

/-- What is written back for one id is of no concern for another one. -/
theorem Written.agreeOn (written : Written p y db db') {id : String} (other : y.sent.id ≠ id) :
    db.AgreeOn id db' := by
  have apart : (Cell.text y.sent.id).sameValue (.text id) = false :=
    Bool.eq_false_iff.mpr fun same => other (Cell.text.inj (Cell.sameValue_text.mp same))
  refine ⟨written.guarded, written.full, ?_, ?_⟩
  · rw [written.queue]
    exact filter_filterMap_row?_of_other (·.sameValue (.text id)) apart _
  · rw [written.letters]
    cases letter : y.letter? with
    | none => rfl
    | some l =>
      refine filter_upserted_of_other (·.sameValue (.text id)) rfl rfl ?_ _
      rwa [letter_id letter]

theorem isRefused_of_written (countable : db.Countable) (written : Written p y db db')
    (other : y.sent.id ≠ x.sent.id) : x.isRefused p db' = x.isRefused p db := by
  rw [isRefused_eq_barred (countable.fewer written.fewer), isRefused_eq_barred countable,
    barred_congr (written.agreeOn other)]

/-! ## The write-backs of a pass -/

/-- The database after the write-backs for some exchanges. -/
def writtenBack (p : RetryPolicy) (xs : List Exchange) (db : Database) : Database :=
  xs.foldl (fun db x => (x.writeBack p db).1) db

/-- The exchanges whose write-back goes through when it is their turn. -/
def taken (p : RetryPolicy) : List Exchange → Database → List Exchange
  | [], _ => []
  | x :: xs, db =>
    let rest := taken p xs (x.writeBack p db).1
    if (x.writeBack p db).2 then x :: rest else rest

/-- What is refused in its turn is refused from the beginning, and of the rest the database gets
what the reference says. -/
theorem writtenBack_spec (countable : db.Countable) (distinct : (xs.map (·.sent.id)).Nodup) :
    taken p xs db = xs.filter (fun x => !x.isRefused p db) ∧
      (writtenBack p xs db).rowsOf .queue = answered p (taken p xs db) (db.rowsOf .queue) ∧
      (writtenBack p xs db).rowsOf .deadLetters =
        filed ((taken p xs db).filterMap (·.letter?)) (db.rowsOf .deadLetters) := by
  induction xs generalizing db with
  | nil => exact ⟨rfl, rfl, rfl⟩
  | cons x xs ih =>
    obtain ⟨new, distinct⟩ := List.nodup_cons.mp distinct
    rcases writeBack_cases countable p x with run | ⟨db', run, written⟩
    · have refused : x.isRefused p db = true := by rw [isRefused, run]; rfl
      obtain ⟨chosen, queue, letters⟩ := ih countable distinct
      simp only [taken, writtenBack, List.foldl_cons, run, refused, List.filter_cons]
      exact ⟨chosen, queue, letters⟩
    · have free : x.isRefused p db = false := by rw [isRefused, run]; rfl
      obtain ⟨chosen, queue, letters⟩ := ih (countable.fewer written.fewer) distinct
      -- The others have other ids, so they fare as if this one had not been written back.
      have same : xs.filter (fun y => !y.isRefused p db') =
          xs.filter fun y => !y.isRefused p db := by
        refine List.filter_congr fun y member => ?_
        rw [isRefused_of_written countable written]
        exact fun taken => new (List.mem_map.mpr ⟨y, member, taken.symm⟩)
      simp only [taken, writtenBack, List.foldl_cons, run, free, List.filter_cons, if_true,
        Bool.not_false]
      refine ⟨by rw [chosen, same], ?_, ?_⟩
      · rw [answered, List.foldl_cons, ← written.queue]
        exact queue
      · rw [filterMap_cons_toList, filed, List.foldl_append, ← filed, ← filed, ← written.letters]
        exact letters

end Exchange

end Outbox
