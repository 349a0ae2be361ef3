import Outbox.Proofs.Rows
import Outbox.Store.Moves

/-!
# A healthy database

In a healthy database the tables that mutations pass through are there, no guard restricts them
and transactions can be committed. There no statement on a queued mutation fails, and every move
of a mutation is an equation on the rows of two tables.
-/
namespace Outbox

open Table Time

namespace Database

/-- The rows of a table; none when the table is missing. -/
def rowsOf (db : Database) (name : TableName) : List Row := ((db.get? name).map (·.rows)).getD []

/-- The database with other rows in one of its tables. -/
def withRows (db : Database) (name : TableName) (rows : List Row) : Database :=
  db.set name (some (ofRows rows))

/-- Whether mutations pass through a table. -/
def isTravelled : TableName → Bool
  | .queue | .deadLetters | .collection _ => true
  | _ => false

/-- A table is there, and no guard restricts it. -/
def Unguarded (db : Database) (name : TableName) : Prop :=
  db.get? name = some (ofRows (db.rowsOf name))

structure Healthy (db : Database) : Prop where
  table : ∀ name, isTravelled name = true → db.get? name = some (ofRows (db.rowsOf name))
  notFull : db.isFull = false

/-! ## Rows -/

variable {db : Database}

@[simp] theorem rowsOf_withRows_self (db : Database) (name : TableName) (rows : List Row) :
    (db.withRows name rows).rowsOf name = rows := by
  simp [rowsOf, withRows]

theorem rowsOf_withRows_of_ne (db : Database) {name other : TableName} (h : other ≠ name)
    (rows : List Row) : (db.withRows name rows).rowsOf other = db.rowsOf other := by
  simp only [rowsOf, withRows, get?_set_of_ne db h]

theorem isFull_set (db : Database) (name : TableName) (t : Option Table) :
    (db.set name t).isFull = db.isFull := by
  cases name with
  | collection kind => cases kind <;> rfl
  | _ => rfl

theorem Healthy.withRows (h : db.Healthy) (name : TableName) (rows : List Row) :
    (db.withRows name rows).Healthy where
  table other travelled := by
    by_cases same : other = name
    · subst same
      rw [rowsOf_withRows_self, Database.withRows, get?_set_self]
    · rw [rowsOf_withRows_of_ne db same, Database.withRows, get?_set_of_ne db same]
      exact h.table other travelled
  notFull := by rw [Database.withRows, isFull_set]; exact h.notFull

theorem Unguarded.table_eq {name : TableName} (h : db.Unguarded name) :
    db.table name = .ok (ofRows (db.rowsOf name)) := by
  rw [Database.table, show db.get? name = _ from h]

theorem Unguarded.withRows (db : Database) (name : TableName) (rows : List Row) :
    (db.withRows name rows).Unguarded name := by
  rw [Unguarded, rowsOf_withRows_self, Database.withRows, get?_set_self]

/-- Rows that are written back as they are change nothing. -/
theorem Unguarded.withRows_self {name : TableName} (h : db.Unguarded name) :
    db.withRows name (db.rowsOf name) = db := by
  rw [Database.withRows, ← show db.get? name = _ from h]
  cases name with
  | collection kind => cases kind <;> rfl
  | _ => rfl

@[simp] theorem withRows_withRows (db : Database) (name : TableName) (rows later : List Row) :
    (db.withRows name rows).withRows name later = db.withRows name later := by
  cases name with
  | collection kind => cases kind <;> rfl
  | _ => rfl

theorem Healthy.table_eq (h : db.Healthy) {name : TableName} (travelled : isTravelled name = true) :
    db.table name = .ok (ofRows (db.rowsOf name)) :=
  Unguarded.table_eq (h.table name travelled)

theorem Healthy.commit (h : db.Healthy) : db.commit = .ok () := by
  rw [Database.commit, h.notFull]
  rfl

/-! ## Statements -/

theorem Unguarded.delete {name : TableName} (h : db.Unguarded name) (selects : Row → Bool) :
    db.delete name selects =
      .ok (db.withRows name ((db.rowsOf name).filter fun r => !selects r),
        (db.rowsOf name).countP selects) := by
  rw [Database.delete, h.table_eq]
  change (ofRows (db.rowsOf name)).delete selects >>= _ = _
  rw [delete_ofRows]
  rfl

theorem Unguarded.deleteKey {name : TableName} (h : db.Unguarded name) (id : String) :
    db.deleteKey name id =
      .ok (db.withRows name (without id (db.rowsOf name)), (db.rowsOf name).any (·.hasKey id)) := by
  -- The statement counts what it deletes, and a positive count says that the key was there.
  have counted : decide (0 < (db.rowsOf name).countP (·.hasKey id)) =
      (db.rowsOf name).any (·.hasKey id) := by
    rw [Bool.eq_iff_iff, decide_eq_true_iff, List.countP_pos_iff, List.any_eq_true]
  rw [← counted, Database.deleteKey]
  change db.delete name (·.hasKey id) >>= _ = _
  rw [h.delete]
  rfl

theorem Unguarded.insert {name : TableName} (h : db.Unguarded name) {id : String}
    {cells : List Cell} (complete : missingColumn? name.columns cells = none)
    (key : cells.headD .null = .text id) (fresh : .text id ∉ keysOf (db.rowsOf name)) :
    db.insert name cells = .ok (db.withRows name (added (db.rowsOf name) cells)) := by
  rw [Database.insert, h.table_eq]
  change Table.insert name (ofRows (db.rowsOf name)) cells >>= _ = _
  rw [insert_ofRows complete key fresh]
  rfl

theorem Unguarded.insert_of_taken {name : TableName} (h : db.Unguarded name) {id : String}
    {cells : List Cell} (complete : missingColumn? name.columns cells = none)
    (key : cells.headD .null = .text id) (taken : .text id ∈ keysOf (db.rowsOf name)) :
    ∃ fault, db.insert name cells = .error fault := by
  rw [Database.insert, h.table_eq]
  change ∃ fault, Table.insert name (ofRows (db.rowsOf name)) cells >>= _ = _
  rw [insert_ofRows_of_taken complete key taken]
  exact ⟨_, rfl⟩

theorem Unguarded.selectAll {name : TableName} (h : db.Unguarded name) (order : List Nat) :
    db.select name (fun _ => true) order = .ok (sortRows (rowLE order) (db.rowsOf name)) := by
  rw [Database.select, h.table_eq]
  change (ofRows (db.rowsOf name)).select (fun _ => true) order = _
  rw [Table.select, rowsWhere_ofRows, List.filter_true]
  rfl

theorem Healthy.deleteKey (h : db.Healthy) {name : TableName} (travelled : isTravelled name = true)
    (id : String) :
    db.deleteKey name id =
      .ok (db.withRows name (without id (db.rowsOf name)), (db.rowsOf name).any (·.hasKey id)) :=
  Unguarded.deleteKey (h.table name travelled) id

theorem Unguarded.row? {name : TableName} (h : db.Unguarded name) (id : String) :
    db.row? name id = .ok ((db.rowsOf name).find? (·.hasKey id)) := by
  rw [Database.row?, h.table_eq, ← List.head?_filter]
  change (ofRows (db.rowsOf name)).rowsWhere (·.hasKey id) >>= _ = _
  rw [rowsWhere_ofRows]
  rfl

theorem Unguarded.count {name : TableName} (h : db.Unguarded name) :
    db.count name = .ok (db.rowsOf name).length := by
  rw [Database.count, h.table_eq]
  change (ofRows (db.rowsOf name)).rowsWhere (fun _ => true) >>= _ = _
  rw [rowsWhere_ofRows, List.filter_true]
  rfl

theorem Unguarded.upsert {name : TableName} (h : db.Unguarded name) {id : String}
    {cells : List Cell} {positions : List Nat} (complete : missingColumn? name.columns cells = none)
    (key : cells.headD .null = .text id) :
    db.upsert name cells positions =
      .ok (db.withRows name (upserted positions id cells (db.rowsOf name))) := by
  rw [Database.upsert, h.table_eq]
  change Table.upsert name (ofRows (db.rowsOf name)) cells (replaceAt positions) >>= _ = _
  rw [upsert_ofRows complete key]
  rfl

/-- Without a condition a statement deletes all rows. -/
theorem Unguarded.deleteAll {name : TableName} (h : db.Unguarded name) :
    db.delete name (fun _ => true) = .ok (db.withRows name [], (db.rowsOf name).length) := by
  rw [h.delete, List.countP_true, Bool.not_true, List.filter_false]

theorem Healthy.row? (h : db.Healthy) {name : TableName} (travelled : isTravelled name = true)
    (id : String) : db.row? name id = .ok ((db.rowsOf name).find? (·.hasKey id)) :=
  Unguarded.row? (h.table name travelled) id

theorem Healthy.count (h : db.Healthy) {name : TableName} (travelled : isTravelled name = true) :
    db.count name = .ok (db.rowsOf name).length :=
  Unguarded.count (h.table name travelled)

theorem Healthy.upsert (h : db.Healthy) {name : TableName} (travelled : isTravelled name = true)
    {id : String} {cells : List Cell} {positions : List Nat}
    (complete : missingColumn? name.columns cells = none) (key : cells.headD .null = .text id) :
    db.upsert name cells positions =
      .ok (db.withRows name (upserted positions id cells (db.rowsOf name))) :=
  Unguarded.upsert (h.table name travelled) complete key

theorem Unguarded.insertMutation (h : db.Unguarded .queue) {m : Mutation}
    (fresh : .text m.id ∉ keysOf (db.rowsOf .queue)) :
    db.insertMutation m = .ok (db.withRows .queue (added (db.rowsOf .queue) m.toRow)) := by
  rw [Database.insertMutation, h.insert rfl rfl fresh]
  rfl

theorem Healthy.insertMutation (h : db.Healthy) {m : Mutation}
    (fresh : .text m.id ∉ keysOf (db.rowsOf .queue)) :
    db.insertMutation m = .ok (db.withRows .queue (added (db.rowsOf .queue) m.toRow)) :=
  Unguarded.insertMutation (h.table .queue rfl) fresh

theorem Healthy.insertMutation_of_taken (h : db.Healthy) {m : Mutation}
    (taken : .text m.id ∈ keysOf (db.rowsOf .queue)) :
    ∃ fault, db.insertMutation m = .error fault := by
  obtain ⟨fault, refused⟩ : ∃ fault, db.insert .queue m.toRow = .error fault :=
    Unguarded.insert_of_taken (h.table .queue rfl) rfl rfl taken
  rw [Database.insertMutation, refused]
  exact ⟨_, rfl⟩

theorem Unguarded.deleteMutation (h : db.Unguarded .queue) (id : String) :
    db.deleteMutation id =
      .ok (db.withRows .queue (without id (db.rowsOf .queue)),
        (db.rowsOf .queue).any (·.hasKey id)) := by
  rw [Database.deleteMutation, h.deleteKey]
  rfl

theorem Healthy.deleteMutation (h : db.Healthy) (id : String) :
    db.deleteMutation id =
      .ok (db.withRows .queue (without id (db.rowsOf .queue)),
        (db.rowsOf .queue).any (·.hasKey id)) :=
  Unguarded.deleteMutation (h.table .queue rfl) id

theorem Healthy.countMutations (h : db.Healthy) :
    db.countMutations = .ok (db.rowsOf .queue).length := by
  rw [Database.countMutations, h.count rfl]
  rfl

theorem Healthy.clearMutations (h : db.Healthy) :
    db.clearMutations = .ok (db.withRows .queue [], (db.rowsOf .queue).length) := by
  rw [Database.clearMutations, Unguarded.deleteAll (h.table .queue rfl)]
  rfl

theorem Healthy.updateRetryState (h : db.Healthy) (m : Mutation) :
    db.updateRetryState m =
      .ok (db.withRows .queue (replaced [6, 7, 8] m.id m.toRow (db.rowsOf .queue)),
        (db.rowsOf .queue).any (·.hasKey m.id)) := by
  rw [Database.updateRetryState, Database.update, h.table_eq rfl]
  change Error.ofTable ((ofRows (db.rowsOf .queue)).update (·.hasKey m.id)
    (fun old => replaceAt [6, 7, 8] old m.toRow) >>= _) = _
  rw [update_ofRows]
  rfl

theorem Unguarded.mutations (h : db.Unguarded .queue) :
    db.mutations = (sortRows (rowLE [5]) (db.rowsOf .queue)).mapM Mutation.ofRow := by
  rw [Database.mutations, Database.selectMutations, h.selectAll]
  rfl

theorem Healthy.mutations (h : db.Healthy) :
    db.mutations = (sortRows (rowLE [5]) (db.rowsOf .queue)).mapM Mutation.ofRow :=
  Unguarded.mutations (h.table .queue rfl)

theorem Unguarded.mutation? (h : db.Unguarded .queue) (id : String) :
    db.mutation? id =
      match (db.rowsOf .queue).find? (·.hasKey id) with
      | some r => (Mutation.ofRow r).map some
      | none => .ok none := by
  rw [Database.mutation?, h.row?]
  rfl

theorem Healthy.mutation? (h : db.Healthy) (id : String) :
    db.mutation? id =
      match (db.rowsOf .queue).find? (·.hasKey id) with
      | some r => (Mutation.ofRow r).map some
      | none => .ok none :=
  Unguarded.mutation? (h.table .queue rfl) id

theorem Healthy.mutation?_eq_some (h : db.Healthy) {id : String} {m : Mutation}
    (found : db.mutation? id = .ok (some m)) :
    ∃ r, (db.rowsOf .queue).find? (·.hasKey id) = some r ∧ Mutation.ofRow r = .ok m := by
  rw [h.mutation?] at found
  cases present : (db.rowsOf .queue).find? (·.hasKey id) with
  | none =>
    rw [present] at found
    cases found
  | some r =>
    rw [present] at found
    cases read : Mutation.ofRow r with
    | error fault => simp [read, Except.map] at found
    | ok m' =>
      have same : m' = m := by simpa [read, Except.map] using found
      exact ⟨r, rfl, same ▸ read⟩

theorem Healthy.mutation?_of_absent (h : db.Healthy) {id : String}
    (absent : .text id ∉ keysOf (db.rowsOf .queue)) : db.mutation? id = .ok none := by
  rw [h.mutation?, find?_hasKey_of_absent absent]

theorem Unguarded.insertDeadLetter (h : db.Unguarded .deadLetters) (l : DeadLetter) :
    db.insertDeadLetter l =
      .ok (db.withRows .deadLetters
        (upserted [6, 7, 8] l.mutation.id l.toRow (db.rowsOf .deadLetters))) := by
  rw [Database.insertDeadLetter, h.upsert rfl rfl]
  rfl

theorem Healthy.insertDeadLetter (h : db.Healthy) (l : DeadLetter) :
    db.insertDeadLetter l =
      .ok (db.withRows .deadLetters
        (upserted [6, 7, 8] l.mutation.id l.toRow (db.rowsOf .deadLetters))) :=
  Unguarded.insertDeadLetter (h.table .deadLetters rfl) l

theorem Unguarded.deadLetter? (h : db.Unguarded .deadLetters) (id : String) :
    db.deadLetter? id =
      match (db.rowsOf .deadLetters).find? (·.hasKey id) with
      | some r => (DeadLetter.ofRow r).map some
      | none => .ok none := by
  rw [Database.deadLetter?, h.row?]
  rfl

theorem Healthy.deadLetter? (h : db.Healthy) (id : String) :
    db.deadLetter? id =
      match (db.rowsOf .deadLetters).find? (·.hasKey id) with
      | some r => (DeadLetter.ofRow r).map some
      | none => .ok none :=
  Unguarded.deadLetter? (h.table .deadLetters rfl) id

theorem Healthy.deadLetter?_of_absent (h : db.Healthy) {id : String}
    (absent : .text id ∉ keysOf (db.rowsOf .deadLetters)) : db.deadLetter? id = .ok none := by
  rw [h.deadLetter?, find?_hasKey_of_absent absent]

theorem Unguarded.deleteDeadLetter (h : db.Unguarded .deadLetters) (id : String) :
    db.deleteDeadLetter id =
      .ok (db.withRows .deadLetters (without id (db.rowsOf .deadLetters)),
        (db.rowsOf .deadLetters).any (·.hasKey id)) := by
  rw [Database.deleteDeadLetter, h.deleteKey]
  rfl

theorem Healthy.deleteDeadLetter (h : db.Healthy) (id : String) :
    db.deleteDeadLetter id =
      .ok (db.withRows .deadLetters (without id (db.rowsOf .deadLetters)),
        (db.rowsOf .deadLetters).any (·.hasKey id)) :=
  Unguarded.deleteDeadLetter (h.table .deadLetters rfl) id

theorem Healthy.putEntity (h : db.Healthy) (kind : EntityKind) (r : EntityRecord) :
    db.putEntity kind r =
      .ok (db.withRows (.collection kind)
        (upserted [1, 2] r.id r.toRow (db.rowsOf (.collection kind)))) := by
  rw [Database.putEntity, h.upsert rfl rfl rfl]
  rfl

/-- The rows of a collection after records were stored one after the other. -/
def rowsWith (records : List EntityRecord) (rows : List Row) : List Row :=
  records.foldl (fun rows r => upserted [1, 2] r.id r.toRow rows) rows

theorem Healthy.putEntities (h : db.Healthy) (kind : EntityKind) (records : List EntityRecord) :
    db.putEntities kind records =
      .ok (db.withRows (.collection kind)
        (rowsWith records (db.rowsOf (.collection kind)))) := by
  induction records generalizing db with
  | nil => exact congrArg Except.ok (Unguarded.withRows_self (h.table _ rfl)).symm
  | cons r records ih =>
    have rest := ih (h.withRows (.collection kind)
      (upserted [1, 2] r.id r.toRow (db.rowsOf (.collection kind))))
    rw [rowsOf_withRows_self, withRows_withRows] at rest
    rw [Database.putEntities, List.foldlM_cons, h.putEntity]
    exact rest

/-! ## Moves -/

/-- The database after a mutation became a dead letter. -/
def buried (db : Database) (l : DeadLetter) : Database :=
  (db.withRows .deadLetters
    (upserted [6, 7, 8] l.mutation.id l.toRow (db.rowsOf .deadLetters))).withRows .queue
      (without l.mutation.id (db.rowsOf .queue))

/-- The database after the mutation of a dead letter was queued anew. -/
def revived (db : Database) (id : String) (m : Mutation) : Database :=
  (db.withRows .deadLetters (without id (db.rowsOf .deadLetters))).withRows .queue
    (added (db.rowsOf .queue) m.toRow)

theorem length_added (rows : List Row) (cells : List Cell) :
    (added rows cells).length = rows.length + 1 := by
  simp [added]

theorem Healthy.transaction {α : Type} {f : Database → Except Error (Database × α)}
    {after : Database} {x : α} (done : f db = .ok (after, x)) (h : after.Healthy) :
    db.transaction f = (after, .ok x) := by
  simp only [Database.transaction, atomically, done, bind, Except.bind, h.commit]
  rfl

theorem Healthy.enqueue (h : db.Healthy) {m : Mutation}
    (fresh : .text m.id ∉ keysOf (db.rowsOf .queue)) :
    db.enqueue m =
      (db.withRows .queue (added (db.rowsOf .queue) m.toRow),
        .ok ((db.rowsOf .queue).length + 1)) := by
  simp only [Database.enqueue, h.insertMutation fresh, (h.withRows _ _).countMutations,
    rowsOf_withRows_self, length_added]

theorem Healthy.dequeue (h : db.Healthy) (id : String) :
    db.dequeue id =
      (db.withRows .queue (without id (db.rowsOf .queue)),
        .ok ((db.rowsOf .queue).any (·.hasKey id), (without id (db.rowsOf .queue)).length)) := by
  simp only [Database.dequeue, h.deleteMutation, (h.withRows _ _).countMutations,
    rowsOf_withRows_self]
  rfl

/-- The rows of a collection after the change of a mutation was made there. -/
def rowsAfter (m : Mutation) (now : Instant) (rows : List Row) : List Row :=
  match m.operation with
  | .create | .update =>
    upserted [1, 2] m.entityId (EntityRecord.toRow ⟨m.entityId, m.payload, now⟩) rows
  | .delete => without m.entityId rows

theorem Healthy.changeCopy (h : db.Healthy) (m : Mutation) (now : Instant) :
    db.changeCopy m now =
      .ok (db.withRows (.collection m.kind)
        (rowsAfter m now (db.rowsOf (.collection m.kind)))) := by
  have stored := h.putEntity m.kind ⟨m.entityId, m.payload, now⟩
  have removed := h.deleteKey (show isTravelled (.collection m.kind) = true from rfl) m.entityId
  cases op : m.operation with
  | delete =>
    simp only [Database.changeCopy, rowsAfter, op, deleteEntity, removed]
    rfl
  | _ => simp only [Database.changeCopy, rowsAfter, op, stored]

theorem Healthy.mutate (h : db.Healthy) {m : Mutation} (now : Instant)
    (fresh : .text m.id ∉ keysOf (db.rowsOf .queue)) :
    db.mutate m now =
      ((db.withRows (.collection m.kind)
        (rowsAfter m now (db.rowsOf (.collection m.kind)))).withRows .queue
          (added (db.rowsOf .queue) m.toRow), .ok ((db.rowsOf .queue).length + 1)) := by
  have copied := h.withRows (.collection m.kind)
    (rowsAfter m now (db.rowsOf (.collection m.kind)))
  -- The copy and the queue are two tables, so neither statement sees the other one.
  have same := rowsOf_withRows_of_ne db (show TableName.queue ≠ .collection m.kind by simp)
    (rowsAfter m now (db.rowsOf (.collection m.kind)))
  refine Healthy.transaction ?_ (copied.withRows _ _)
  simp only [h.changeCopy, bind, Except.bind]
  rw [copied.insertMutation (by rwa [same]), same]
  simp only [(copied.withRows _ _).countMutations, rowsOf_withRows_self, length_added]
  rfl

/-- A mutation whose key is taken leaves the local copy as it was, too. -/
theorem Healthy.mutate_of_taken (h : db.Healthy) {m : Mutation} (now : Instant)
    (taken : .text m.id ∈ keysOf (db.rowsOf .queue)) :
    ∃ fault, db.mutate m now = (db, .error fault) := by
  have copied := h.withRows (.collection m.kind)
    (rowsAfter m now (db.rowsOf (.collection m.kind)))
  have same := rowsOf_withRows_of_ne db (show TableName.queue ≠ .collection m.kind by simp)
    (rowsAfter m now (db.rowsOf (.collection m.kind)))
  obtain ⟨fault, refused⟩ := copied.insertMutation_of_taken (by rw [same]; exact taken)
  refine ⟨fault, ?_⟩
  simp only [Database.mutate, Database.transaction, atomically, h.changeCopy, bind, Except.bind,
    refused]

theorem Healthy.buried (h : db.Healthy) (l : DeadLetter) : (db.buried l).Healthy :=
  (h.withRows _ _).withRows _ _

theorem Healthy.revived (h : db.Healthy) (id : String) (m : Mutation) :
    (db.revived id m).Healthy :=
  (h.withRows _ _).withRows _ _

theorem Healthy.bury (h : db.Healthy) (l : DeadLetter) :
    db.bury l =
      (db.buried l, .ok (without l.mutation.id (db.rowsOf .queue)).length) := by
  have filed := h.withRows .deadLetters
    (upserted [6, 7, 8] l.mutation.id l.toRow (db.rowsOf .deadLetters))
  have same := rowsOf_withRows_of_ne db (show TableName.queue ≠ .deadLetters by simp)
    (upserted [6, 7, 8] l.mutation.id l.toRow (db.rowsOf .deadLetters))
  refine Healthy.transaction ?_ (filed.withRows _ _)
  simp only [h.insertDeadLetter, bind, Except.bind, filed.deleteMutation, same]
  simp only [(filed.withRows _ _).countMutations, rowsOf_withRows_self]
  rfl

theorem Healthy.putBatch (h : db.Healthy) (kind : EntityKind) (records : List EntityRecord) :
    db.putBatch kind records =
      (db.withRows (.collection kind) (rowsWith records (db.rowsOf (.collection kind))),
        .ok ()) := by
  refine Healthy.transaction ?_ (h.withRows _ _)
  rw [h.putEntities]
  rfl

/-- A dead letter that is read, and whose key is not taken, is queued anew. -/
theorem Healthy.revive (h : db.Healthy) {id : String} {r : Row} {l : DeadLetter}
    (found : (db.rowsOf .deadLetters).find? (·.hasKey id) = some r)
    (read : DeadLetter.ofRow r = .ok l)
    (untaken : .text l.mutation.id ∉ keysOf (db.rowsOf .queue)) (now : Instant) :
    db.revive id now = (db.revived id (l.mutation.renewed now),
      .ok (some (l.mutation.renewed now, (db.rowsOf .queue).length + 1))) := by
  have left := h.withRows .deadLetters (without id (db.rowsOf .deadLetters))
  have same := rowsOf_withRows_of_ne db (show TableName.queue ≠ .deadLetters by simp)
    (without id (db.rowsOf .deadLetters))
  have queued : .text (l.mutation.renewed now).id ∉ keysOf
      ((db.withRows .deadLetters (without id (db.rowsOf .deadLetters))).rowsOf .queue) := by
    rw [same]
    exact untaken
  simp only [Database.revive, atomically, h.deadLetter?, bind, Except.bind, found, read, Except.map,
    h.deleteDeadLetter, left.insertMutation queued, same, (left.withRows _ _).countMutations,
    (left.withRows _ _).commit, rowsOf_withRows_self, length_added]
  rfl

/-- A dead letter is queued anew only if there is one that can be read and its key is not taken;
otherwise nothing happens. -/
theorem Healthy.revive_cases (h : db.Healthy) (id : String) (now : Instant) :
    (∃ r l, (db.rowsOf .deadLetters).find? (·.hasKey id) = some r ∧ DeadLetter.ofRow r = .ok l ∧
      .text l.mutation.id ∉ keysOf (db.rowsOf .queue) ∧
      db.revive id now = (db.revived id (l.mutation.renewed now),
        .ok (some (l.mutation.renewed now, (db.rowsOf .queue).length + 1)))) ∨
    ∃ result, db.revive id now = (db, result) ∧ ∀ x, result ≠ .ok (some x) := by
  have left := h.withRows .deadLetters (without id (db.rowsOf .deadLetters))
  have same := rowsOf_withRows_of_ne db (show TableName.queue ≠ .deadLetters by simp)
    (without id (db.rowsOf .deadLetters))
  cases found : (db.rowsOf .deadLetters).find? (·.hasKey id) with
  | none =>
    refine .inr ⟨.ok none, ?_, fun x => by simp⟩
    simp only [Database.revive, atomically, h.deadLetter?, bind, Except.bind, found]
    rfl
  | some r =>
    cases read : DeadLetter.ofRow r with
    | error fault =>
      refine .inr ⟨.error fault, ?_, fun x => by simp⟩
      simp only [Database.revive, atomically, h.deadLetter?, bind, Except.bind, found, read,
        Except.map]
    | ok l =>
      -- The letter is deleted before the queue is asked; a key that is taken undoes both.
      by_cases taken : .text l.mutation.id ∈ keysOf (db.rowsOf .queue)
      · obtain ⟨fault, refused⟩ := left.insertMutation_of_taken (m := l.mutation.renewed now)
          (by rw [same]; exact taken)
        refine .inr ⟨.error fault, ?_, fun x => by simp⟩
        simp only [Database.revive, atomically, h.deadLetter?, bind, Except.bind, found, read,
          Except.map, h.deleteDeadLetter, refused]
      · exact .inl ⟨r, l, rfl, read, taken, h.revive found read taken now⟩

end Database

end Outbox
