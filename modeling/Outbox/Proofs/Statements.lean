import Outbox.Proofs.Rows
import Outbox.Proofs.Store

/-!
# What statements have done

Nothing is known here about the tables: any of them may be missing, guards may refuse a statement,
keys may be taken, and a transaction may not be committed. A statement that succeeds has changed
the rows of its table as it would have done without any guards, it has left the other tables alone,
and no guard came of it. So what an operation of several statements has done is read off them one
by one, and what a transaction has done is that or nothing.
-/
namespace Outbox

open Table Time

/-! ## Statements that succeed -/

namespace Table

variable {t t' : Table} {name : TableName} {id : String} {cells : List Cell}

theorem rows_of_insert (done : insert name t cells = .ok t') : t'.rows = added t.rows cells := by
  obtain ⟨-, -, done⟩ := Except.bind_eq_ok done
  split at done
  · cases done
  · cases done
    rfl

theorem rows_of_upsert {positions : List Nat} (key : cells.headD .null = .text id)
    (done : upsert name t cells (replaceAt positions) = .ok t') :
    t'.rows = upserted positions id cells t.rows := by
  obtain ⟨-, -, done⟩ := Except.bind_eq_ok done
  rw [key] at done
  split at done
  next r found =>
    have taken : t.rows.any (·.hasKey id) = true :=
      List.any_eq_true.mpr ⟨r, List.mem_of_find?_eq_some found, List.find?_some found⟩
    unfold update at done
    split at done
    · cases done
    · cases done
      rw [upserted, if_pos taken]
      rfl
  next absent =>
    have free : ¬ t.rows.any (·.hasKey id) = true := by
      intro taken
      obtain ⟨r, member, keyed⟩ := List.any_eq_true.mp taken
      exact List.find?_eq_none.mp absent r member keyed
    cases done
    rw [upserted, if_neg free]
    rfl

theorem rows_of_delete {selects : Row → Bool} {n : Nat}
    (done : t.delete selects = .ok (t', n)) : t'.rows = t.rows.filter fun r => !selects r := by
  unfold delete at done
  split at done
  · cases done
  · cases done
    rfl

theorem rows_of_update {positions : List Nat}
    (done : t.update (fun r => (r.cell 0).sameValue (.text id))
      (fun old => replaceAt positions old cells) = .ok t') :
    t'.rows = replaced positions id cells t.rows := by
  unfold update at done
  split at done
  · cases done
  · cases done
    rfl

/-! No statement sets a guard or lifts one. -/

theorem guards_of_insert (done : insert name t cells = .ok t') : t'.guards = t.guards := by
  obtain ⟨-, -, done⟩ := Except.bind_eq_ok done
  split at done
  · cases done
  · cases done
    rfl

theorem guards_of_update {selects : Row → Bool} {change : List Cell → List Cell}
    (done : t.update selects change = .ok t') : t'.guards = t.guards := by
  unfold update at done
  split at done
  · cases done
  · cases done
    rfl

theorem guards_of_upsert {merge : List Cell → List Cell → List Cell}
    (done : upsert name t cells merge = .ok t') : t'.guards = t.guards := by
  obtain ⟨-, -, done⟩ := Except.bind_eq_ok done
  split at done
  · exact guards_of_update done
  · cases done
    rfl

theorem guards_of_delete {selects : Row → Bool} {n : Nat}
    (done : t.delete selects = .ok (t', n)) : t'.guards = t.guards := by
  unfold delete at done
  split at done
  · cases done
  · cases done
    rfl

end Table

namespace Database

/-- Every guard of a table stood there before. -/
def FewerGuards (db db' : Database) : Prop :=
  ∀ name, ∀ t' ∈ db'.get? name, ∀ g ∈ t'.guards, ∃ t ∈ db.get? name, g ∈ t.guards

namespace FewerGuards

variable {db db' db'' : Database} {name : TableName}

theorem refl (db : Database) : FewerGuards db db := fun _ t' there _ stands => ⟨t', there, stands⟩

theorem trans (first : FewerGuards db db') (second : FewerGuards db' db'') :
    FewerGuards db db'' := by
  intro name t'' there g stands
  obtain ⟨t', there', stands'⟩ := second name t'' there g stands
  exact first name t' there' g stands'

theorem set {t : Table} (stood : ∀ g ∈ t.guards, ∃ t₀ ∈ db.get? name, g ∈ t₀.guards) :
    FewerGuards db (db.set name (some t)) := by
  intro name' t' there g stands
  by_cases same : name' = name
  · subst same
    rw [get?_set_self] at there
    cases there
    exact stood g stands
  · rw [get?_set_of_ne db same] at there
    exact ⟨t', there, stands⟩

end FewerGuards

/-- The guards of a table, unless it is missing. -/
def guardsOf? (db : Database) (name : TableName) : Option (List Guard) :=
  (db.get? name).map (·.guards)

/-- One table has these rows now, and the others have the same as before. Which tables there are,
what guards them and whether transactions can be committed is not touched. -/
structure Rewrites (db db' : Database) (name : TableName) (rows : List Row) : Prop where
  rows : db'.rowsOf name = rows
  others : ∀ other ≠ name, db'.rowsOf other = db.rowsOf other
  present : ∃ t, db'.get? name = some t
  guards : FewerGuards db db'
  guarded : db'.guardsOf? = db.guardsOf?
  full : db'.isFull = db.isFull

variable {db db' : Database} {name : TableName} {id : String}

theorem get?_of_table {t : Table} (there : db.table name = .ok t) : db.get? name = some t := by
  unfold Database.table at there
  split at there
  next present =>
    cases there
    exact present
  · cases there

theorem rowsOf_of_table {t : Table} (there : db.table name = .ok t) : db.rowsOf name = t.rows := by
  rw [rowsOf, get?_of_table there]
  rfl

theorem Rewrites.set {t t' : Table} (there : db.table name = .ok t)
    (guards : t'.guards = t.guards) : Rewrites db (db.set name (some t')) name t'.rows where
  rows := by
    rw [rowsOf, get?_set_self]
    rfl
  others other ne := by rw [rowsOf, get?_set_of_ne db ne, rowsOf]
  present := ⟨t', get?_set_self db name _⟩
  guards := .set fun _ stands => ⟨t, get?_of_table there, guards ▸ stands⟩
  guarded := funext fun other => by
    by_cases same : other = name
    · subst same
      rw [guardsOf?, guardsOf?, get?_set_self, get?_of_table there, Option.map_some,
        Option.map_some, guards]
    · rw [guardsOf?, get?_set_of_ne db same, guardsOf?]
  full := isFull_set db name _

theorem rewrites_of_insert {cells : List Cell} (done : db.insert name cells = .ok db') :
    Rewrites db db' name (added (db.rowsOf name) cells) := by
  obtain ⟨t, there, done⟩ := Except.bind_eq_ok done
  obtain ⟨t', inserted, done⟩ := Except.bind_eq_ok done
  cases done
  rw [rowsOf_of_table there, ← rows_of_insert inserted]
  exact .set there (guards_of_insert inserted)

theorem rewrites_of_upsert {cells : List Cell} {positions : List Nat}
    (key : cells.headD .null = .text id) (done : db.upsert name cells positions = .ok db') :
    Rewrites db db' name (upserted positions id cells (db.rowsOf name)) := by
  obtain ⟨t, there, done⟩ := Except.bind_eq_ok done
  obtain ⟨t', stored, done⟩ := Except.bind_eq_ok done
  cases done
  rw [rowsOf_of_table there, ← rows_of_upsert key stored]
  exact .set there (guards_of_upsert stored)

theorem rewrites_of_update {cells : List Cell} {positions : List Nat} {found : Bool}
    (done : db.update name (.text id) (fun old => replaceAt positions old cells) =
      .ok (db', found)) :
    Rewrites db db' name (replaced positions id cells (db.rowsOf name)) := by
  obtain ⟨t, there, done⟩ := Except.bind_eq_ok done
  obtain ⟨t', changed, done⟩ := Except.bind_eq_ok done
  cases done
  rw [rowsOf_of_table there, ← rows_of_update changed]
  exact .set there (guards_of_update changed)

theorem rewrites_of_delete {selects : Row → Bool} {n : Nat}
    (done : db.delete name selects = .ok (db', n)) :
    Rewrites db db' name ((db.rowsOf name).filter fun r => !selects r) := by
  obtain ⟨t, there, done⟩ := Except.bind_eq_ok done
  obtain ⟨⟨t', n'⟩, removed, done⟩ := Except.bind_eq_ok done
  cases done
  rw [rowsOf_of_table there, ← rows_of_delete removed]
  exact .set there (guards_of_delete removed)

theorem rewrites_of_deleteKey {found : Bool} (done : db.deleteKey name id = .ok (db', found)) :
    Rewrites db db' name (without id (db.rowsOf name)) := by
  obtain ⟨⟨after, n⟩, deleted, done⟩ := Except.bind_eq_ok done
  cases done
  exact rewrites_of_delete deleted

/-- A row is said to be gone where one was there. -/
theorem found_of_deleteKey {found : Bool} (done : db.deleteKey name id = .ok (db', found)) :
    found = (db.rowsOf name).any (·.hasKey id) := by
  obtain ⟨⟨after, n⟩, deleted, done⟩ := Except.bind_eq_ok done
  obtain ⟨t, there, deleted⟩ := Except.bind_eq_ok deleted
  obtain ⟨⟨t', n'⟩, removed, deleted⟩ := Except.bind_eq_ok deleted
  cases deleted
  cases done
  unfold Table.delete at removed
  split at removed
  · cases removed
  · cases removed
    rw [rowsOf_of_table there, Bool.eq_iff_iff, decide_eq_true_iff, List.countP_pos_iff,
      List.any_eq_true]
    rfl

theorem eq_filter_of_rowsWhere {t : Table} {selects : Row → Bool} {rows : List Row}
    (selected : t.rowsWhere selects = .ok rows) : rows = t.rows.filter selects := by
  unfold Table.rowsWhere at selected
  split at selected
  · cases selected
  · cases selected
    rfl

/-- What a count says is the length of the table. -/
theorem eq_length_of_count {n : Nat} (counted : db.count name = .ok n) :
    n = (db.rowsOf name).length := by
  obtain ⟨t, there, counted⟩ := Except.bind_eq_ok counted
  obtain ⟨rows, selected, counted⟩ := Except.bind_eq_ok counted
  cases counted
  rw [eq_filter_of_rowsWhere selected, rowsOf_of_table there, List.filter_true]

/-- A queue that is listed is listed by its rows. -/
theorem read_of_mutations {queued : List Mutation} (listed : db.mutations = .ok queued) :
    (sortRows (rowLE [5]) (db.rowsOf .queue)).mapM Mutation.ofRow = .ok queued := by
  obtain ⟨rows, selected, read⟩ := Except.bind_eq_ok listed
  obtain ⟨t, there, selected⟩ := Except.bind_eq_ok (Error.ofTable_eq_ok_iff.mp selected)
  cases chosen : t.rowsWhere (fun _ => true) with
  | error fault => simp [Table.select, chosen, Except.map] at selected
  | ok all =>
    rw [eq_filter_of_rowsWhere chosen, List.filter_true] at chosen
    simp only [Table.select, chosen, Except.map, Except.ok.injEq] at selected
    rw [rowsOf_of_table there, ← read, ← selected]
    rfl

theorem rewrites_of_putEntity {kind : EntityKind} {x : EntityRecord}
    (done : db.putEntity kind x = .ok db') :
    Rewrites db db' (.collection kind)
      (upserted [1, 2] x.id x.toRow (db.rowsOf (.collection kind))) :=
  rewrites_of_upsert rfl (Error.ofTable_eq_ok_iff.mp done)

theorem rowsOf_of_putEntities {kind : EntityKind} {records : List EntityRecord}
    (done : db.putEntities kind records = .ok db') :
    db'.rowsOf (.collection kind) = rowsWith records (db.rowsOf (.collection kind)) := by
  induction records generalizing db with
  | nil =>
    cases done
    rfl
  | cons x records ih =>
    obtain ⟨after, put, done⟩ := Except.bind_eq_ok done
    rw [ih done, (rewrites_of_putEntity put).rows]
    rfl

theorem rewrites_of_changeCopy {m : Mutation} {now : Instant}
    (done : db.changeCopy m now = .ok db') :
    Rewrites db db' (.collection m.kind)
      (rowsAfter m now (db.rowsOf (.collection m.kind))) := by
  cases op : m.operation with
  | delete =>
    simp only [changeCopy, op] at done
    cases deleted : db.deleteEntity m.kind m.entityId with
    | error fault => simp [deleted, Except.map] at done
    | ok result =>
      obtain ⟨after, found⟩ := result
      simp only [deleted, Except.map, Except.ok.injEq] at done
      subst done
      simp only [rowsAfter, op]
      exact rewrites_of_deleteKey (Error.ofTable_eq_ok_iff.mp deleted)
  | _ =>
    simp only [changeCopy, op] at done
    simp only [rowsAfter, op]
    exact rewrites_of_putEntity done

theorem eq_find?_of_row? {found : Option Row} (looked : db.row? name id = .ok found) :
    found = (db.rowsOf name).find? (·.hasKey id) := by
  obtain ⟨t, there, looked⟩ := Except.bind_eq_ok looked
  obtain ⟨rows, selected, looked⟩ := Except.bind_eq_ok looked
  cases looked
  rw [eq_filter_of_rowsWhere selected, rowsOf_of_table there, List.head?_filter]
  rfl

/-- A letter that is found has the id, and where none is found no row has it. -/
theorem deadLetter?_cases {found : Option DeadLetter} (looked : db.deadLetter? id = .ok found) :
    (found = none ∧ .text id ∉ keysOf (db.rowsOf .deadLetters)) ∨
      ∃ l, found = some l ∧ l.mutation.id = id := by
  obtain ⟨row, looked, read⟩ := Except.bind_eq_ok looked
  have present := eq_find?_of_row? (Error.ofTable_eq_ok_iff.mp looked)
  cases row with
  | none =>
    cases read
    refine .inl ⟨rfl, fun taken => ?_⟩
    obtain ⟨r, -, there, -⟩ := find?_hasKey_of_present taken
    rw [there] at present
    cases present
  | some r =>
    cases letter : DeadLetter.ofRow r with
    | error fault => simp [letter, Except.map] at read
    | ok l =>
      simp only [letter, Except.map, Except.ok.injEq] at read
      exact .inr ⟨l, read.symm, DeadLetter.id_of_found present.symm letter⟩

/-! ## Transactions -/

/-- Steps that are made together fail and nothing has happened, or all of them were made. -/
theorem atomically_cases {α ε : Type} (f : Database → Except ε (Database × α)) (db : Database) :
    (∃ fault, db.atomically f = (db, .error fault)) ∨
      ∃ db' x, db.atomically f = (db', .ok x) ∧ f db = .ok (db', x) := by
  cases run : f db with
  | error fault => exact .inl ⟨fault, by rw [Database.atomically, run]⟩
  | ok result => exact .inr ⟨result.1, result.2, by rw [Database.atomically, run], rfl⟩

/-- The last step of a transaction changes nothing any more. -/
theorem transaction_cases {α : Type} (f : Database → Except Error (Database × α))
    (db : Database) :
    (∃ fault, db.transaction f = (db, .error fault)) ∨
      ∃ db' x, db.transaction f = (db', .ok x) ∧ f db = .ok (db', x) := by
  refine (atomically_cases _ db).imp (fun failed => failed) ?_
  rintro ⟨db', x, run, done⟩
  obtain ⟨⟨after, y⟩, steps, done⟩ := Except.bind_eq_ok done
  obtain ⟨_, -, done⟩ := Except.bind_eq_ok done
  cases done
  exact ⟨db', x, run, steps⟩

theorem mutate_cases (db : Database) (m : Mutation) (now : Instant) :
    (∃ fault, db.mutate m now = (db, .error fault)) ∨
      ∃ db' pending, db.mutate m now = (db', .ok pending) ∧ FewerGuards db db' ∧
        pending = (db'.rowsOf .queue).length ∧
        db'.rowsOf .queue = added (db.rowsOf .queue) m.toRow ∧
        db'.rowsOf (.collection m.kind) = rowsAfter m now (db.rowsOf (.collection m.kind)) := by
  refine (transaction_cases _ db).imp (fun failed => failed) ?_
  rintro ⟨db', pending, run, done⟩
  obtain ⟨copied, copy, done⟩ := Except.bind_eq_ok done
  obtain ⟨queued, insert, done⟩ := Except.bind_eq_ok done
  obtain ⟨_, count, done⟩ := Except.bind_eq_ok done
  cases done
  -- The copy and the queue are in different tables, so neither statement undoes the other.
  have copy := rewrites_of_changeCopy copy
  have insert : Rewrites copied db' .queue _ :=
    rewrites_of_insert (Error.ofTable_eq_ok_iff.mp insert)
  refine ⟨db', pending, run, copy.guards.trans insert.guards,
    eq_length_of_count (Error.ofTable_eq_ok_iff.mp count), ?_, ?_⟩
  · rw [insert.rows, copy.others _ (by simp)]
  · rw [insert.others _ (by simp), copy.rows]

/-- A mutation that was moved is a dead letter, and the queue is without it. -/
theorem rewrites_of_bury {l : DeadLetter} {pending : Nat}
    (done : db.bury l = (db', .ok pending)) :
    ∃ filed, Rewrites db filed .deadLetters
        (upserted [6, 7, 8] l.mutation.id l.toRow (db.rowsOf .deadLetters)) ∧
      Rewrites filed db' .queue (without l.mutation.id (db.rowsOf .queue)) ∧
      pending = (db'.rowsOf .queue).length := by
  rcases transaction_cases _ db with ⟨fault, failed⟩ | ⟨after, n, run, steps⟩
  · cases failed.symm.trans done
  · cases run.symm.trans done
    obtain ⟨filed, file, steps⟩ := Except.bind_eq_ok steps
    obtain ⟨⟨left, found⟩, delete, steps⟩ := Except.bind_eq_ok steps
    obtain ⟨_, count, steps⟩ := Except.bind_eq_ok steps
    cases steps
    have file : Rewrites db filed .deadLetters
        (upserted [6, 7, 8] l.mutation.id l.toRow (db.rowsOf .deadLetters)) :=
      rewrites_of_upsert rfl (Error.ofTable_eq_ok_iff.mp file)
    have delete : Rewrites filed db' .queue (without l.mutation.id (filed.rowsOf .queue)) :=
      rewrites_of_deleteKey (Error.ofTable_eq_ok_iff.mp delete)
    rw [file.others _ (by simp)] at delete
    exact ⟨filed, file, delete, eq_length_of_count (Error.ofTable_eq_ok_iff.mp count)⟩

theorem bury_cases (db : Database) (l : DeadLetter) :
    (∃ fault, db.bury l = (db, .error fault)) ∨
      ∃ db' pending, db.bury l = (db', .ok pending) ∧ FewerGuards db db' ∧
        pending = (db'.rowsOf .queue).length ∧
        db'.rowsOf .deadLetters =
          upserted [6, 7, 8] l.mutation.id l.toRow (db.rowsOf .deadLetters) ∧
        db'.rowsOf .queue = without l.mutation.id (db.rowsOf .queue) := by
  refine (transaction_cases _ db).imp (fun failed => failed) ?_
  rintro ⟨db', pending, run, -⟩
  obtain ⟨filed, file, delete, counted⟩ := rewrites_of_bury run
  exact ⟨db', pending, run, file.guards.trans delete.guards, counted,
    by rw [delete.others _ (by simp), file.rows], delete.rows⟩

theorem putBatch_cases (db : Database) (kind : EntityKind) (records : List EntityRecord) :
    (∃ fault, db.putBatch kind records = (db, .error fault)) ∨
      ∃ db' x, db.putBatch kind records = (db', .ok x) ∧
        db'.rowsOf (.collection kind) = rowsWith records (db.rowsOf (.collection kind)) := by
  refine (transaction_cases _ db).imp (fun failed => failed) ?_
  rintro ⟨db', x, run, done⟩
  refine ⟨db', x, run, ?_⟩
  cases put : db.putEntities kind records with
  | error fault => simp [put, Except.map] at done
  | ok after =>
    simp only [put, Except.map, Except.ok.injEq, Prod.mk.injEq] at done
    rw [← done.1]
    exact rowsOf_of_putEntities put

theorem revive_cases (db : Database) (id : String) (now : Instant) :
    (∃ fault, db.revive id now = (db, .error fault)) ∨
      ∃ db' x, db.revive id now = (db', .ok x) ∧
        ((x = none ∧ db' = db ∧ .text id ∉ keysOf (db.rowsOf .deadLetters)) ∨
          ∃ m pending, x = some (m, pending) ∧ m.id = id ∧ FewerGuards db db' ∧
            pending = (db'.rowsOf .queue).length ∧
            db'.rowsOf .deadLetters = without id (db.rowsOf .deadLetters) ∧
            db'.rowsOf .queue = added (db.rowsOf .queue) m.toRow) := by
  refine (atomically_cases _ db).imp (fun failed => failed) ?_
  rintro ⟨db', x, run, done⟩
  refine ⟨db', x, run, ?_⟩
  -- Without a letter the transaction ends here, and it has only looked.
  obtain ⟨found, looked, done⟩ := Except.bind_eq_ok done
  rcases deadLetter?_cases looked with ⟨rfl, absent⟩ | ⟨l, rfl, same⟩
  · cases done
    exact .inl ⟨rfl, rfl, absent⟩
  · obtain ⟨⟨left, _⟩, delete, done⟩ := Except.bind_eq_ok done
    obtain ⟨queued, insert, done⟩ := Except.bind_eq_ok done
    obtain ⟨pending, count, done⟩ := Except.bind_eq_ok done
    obtain ⟨_, -, done⟩ := Except.bind_eq_ok done
    cases done
    have delete : Rewrites db left .deadLetters _ :=
      rewrites_of_deleteKey (Error.ofTable_eq_ok_iff.mp delete)
    have insert : Rewrites left db' .queue _ :=
      rewrites_of_insert (Error.ofTable_eq_ok_iff.mp insert)
    refine .inr ⟨_, pending, rfl, same, delete.guards.trans insert.guards,
      eq_length_of_count (Error.ofTable_eq_ok_iff.mp count), ?_, ?_⟩
    · rw [insert.others _ (by simp), delete.rows]
    · rw [insert.rows, delete.others _ (by simp)]

end Database

end Outbox
