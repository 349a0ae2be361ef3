import Outbox.Proofs.DateText
import Outbox.Proofs.Standing
import Outbox.Proofs.Versions

/-!
# Migrations that run once

A database is prepared exactly when its record is that of the first migrations: each of them once
with its name and content, none left out below the newest. Then the others run in their order, each
of them adds its own line to the record, and the line is read back as what was written. So a
preparation that succeeds leaves the record of all migrations, and after that there is nothing left
to do.
-/
namespace Outbox

open Table Time

/-- Sorted lists are the same when their elements are. -/
theorem eq_of_sorted_versions {α : Type} {version : α → Int} {xs ys : List α}
    (hx : xs.Pairwise fun a b => version a < version b)
    (hy : ys.Pairwise fun a b => version a < version b) (same : ∀ a, a ∈ xs ↔ a ∈ ys) : xs = ys :=
  haveI : Std.Irrefl fun a b : α => version a < version b := ⟨fun a => Int.lt_irrefl (version a)⟩
  haveI : Std.Antisymm fun a b : α => version a < version b :=
    ⟨fun _ _ less more => absurd (Int.lt_trans less more) (Int.lt_irrefl _)⟩
  hx.eq_of_mem_iff hy same

namespace Migration

/-! ## The known migrations -/

variable {checksum : Migration → UInt64}

/-- A migration as it is remembered once it ran. -/
def record (checksum : Migration → UInt64) (m : Migration) : Applied :=
  ⟨m.version, m.name, (checksum m).toNat⟩

theorem all_sorted : all.Pairwise fun a b => (a.version : Int) < b.version := by decide

theorem version_pos {m : Migration} (known : m ∈ all) : 0 < (m.version : Int) := by
  have positive : ∀ m ∈ all, 0 < m.version := by decide
  exact Int.natCast_pos.mpr (positive m known)

theorem version_le_schema {m : Migration} (known : m ∈ all) : m.version ≤ Version.schema := by
  have bounded : ∀ m ∈ all, m.version ≤ Version.schema := by decide
  exact bounded m known

theorem eq_of_version {m m' : Migration} (known : m ∈ all) (known' : m' ∈ all)
    (same : (m.version : Int) = m'.version) : m = m' := by
  have distinct : (all.map (·.version)).Nodup := by decide
  exact List.inj_on_of_nodup_map distinct known known' (Int.ofNat_inj.mp same)

/-! ## Records that fit -/

theorem checkApplied_eq_ok {a : Applied} :
    checkApplied a checksum = .ok () ↔ ∃ m ∈ all, m.record checksum = a := by
  unfold checkApplied
  constructor
  · intro fits
    split at fits
    · cases fits
    next m found =>
      split at fits
      next same =>
        have version : (m.version : Int) = a.version := by simpa using List.find?_some found
        refine ⟨m, List.mem_of_find?_eq_some found, ?_⟩
        rw [record, version, ← same.1, ← same.2]
      · cases fits
  · rintro ⟨m, known, rfl⟩
    cases found : all.find? fun m' => (m'.version : Int) = (m.record checksum).version with
    | none =>
      exfalso
      simpa [record] using List.find?_eq_none.mp found m known
    | some m' =>
      have version : (m'.version : Int) = m.version := by
        simpa [record] using List.find?_some found
      obtain rfl := eq_of_version (List.mem_of_find?_eq_some found) known version
      exact if_pos ⟨rfl, rfl⟩

theorem forM_eq_ok {ε α : Type} {f : α → Except ε Unit} {xs : List α} :
    xs.forM f = .ok () ↔ ∀ x ∈ xs, f x = .ok () := by
  induction xs with
  | nil => simp [pure, Except.pure]
  | cons x xs ih =>
    change (f x >>= fun _ => xs.forM f) = _ ↔ _
    rw [List.forall_mem_cons, ← ih]
    cases f x with
    | error e => simp [bind, Except.bind]
    | ok => simp [bind, Except.bind]

/-- Whether the version of a migration is remembered. -/
def isSeen (seen : List Applied) (m : Migration) : Bool :=
  seen.any fun a => a.version == (m.version : Int)

/-- The newest remembered version, zero when there is none. -/
def newest (seen : List Applied) : Int := (seen.getLast?.map (·.version)).getD 0

theorem pending_eq_ok_iff {seen : List Applied} {new : List Migration} :
    pending seen checksum = .ok new ↔
      (∀ a ∈ seen, ∃ m ∈ all, m.record checksum = a) ∧
        new = all.filter (!isSeen seen ·) ∧ ∀ m ∈ new, newest seen < m.version := by
  have top : (seen.getLast?.map (·.version)).getD 0 = newest seen := rfl
  have known (m : Migration) : (seen.any fun a => a.version == (m.version : Int)) = isSeen seen m :=
    rfl
  have checks : seen.forM (checkApplied · checksum) = .ok () ↔
      ∀ a ∈ seen, ∃ m ∈ all, m.record checksum = a := by
    simp only [forM_eq_ok, checkApplied_eq_ok]
  rw [pending, ← checks]
  cases seen.forM (checkApplied · checksum) with
  | error e => simp [bind, Except.bind]
  | ok =>
    simp only [bind, Except.bind, true_and, top, known]
    cases found : (all.filter (!isSeen seen ·)).find? fun m => (m.version : Int) ≤ newest seen with
    | none =>
      have above := List.find?_eq_none.mp found
      constructor
      · intro fits
        cases fits
        exact ⟨rfl, fun m member => by simpa using above m member⟩
      · rintro ⟨rfl, -⟩
        rfl
    | some m =>
      -- A migration that is left below the newest line is missing, and nothing runs.
      have gap : (m.version : Int) ≤ newest seen := by simpa using List.find?_some found
      constructor
      · intro fits
        cases fits
      · rintro ⟨rfl, above⟩
        exact absurd (above m (List.mem_of_find?_eq_some found)) (not_lt.mpr gap)

theorem le_newest {seen : List Applied} (ordered : seen.Pairwise fun a b => a.version < b.version)
    {a : Applied} (member : a ∈ seen) : a.version ≤ newest seen := by
  rcases seen.eq_nil_or_concat' with rfl | ⟨front, last, rfl⟩
  · cases member
  · rw [newest, List.getLast?_concat, Option.map_some, Option.getD_some]
    rcases List.mem_append.mp member with before | same
    · exact ((List.pairwise_append.mp ordered).2.2 a before last (List.mem_singleton_self _)).le
    · rw [List.mem_singleton.mp same]

/-- What fits is the record of the first migrations, and the others are left. -/
theorem exists_of_pending {seen : List Applied} {new : List Migration}
    (ordered : seen.Pairwise fun a b => a.version < b.version)
    (fits : pending seen checksum = .ok new) :
    ∃ ran, all = ran ++ new ∧ seen = ran.map (record checksum) := by
  obtain ⟨known, rfl, above⟩ := pending_eq_ok_iff.mp fits
  have seen_iff {m : Migration} (there : m ∈ all) :
      isSeen seen m = true ↔ m.record checksum ∈ seen := by
    simp only [isSeen, List.any_eq_true, beq_iff_eq]
    constructor
    · rintro ⟨a, member, same⟩
      obtain ⟨m', there', rfl⟩ := known a member
      rwa [← eq_of_version there' there same]
    · intro member
      exact ⟨_, member, rfl⟩
  have low {m : Migration} (member : m ∈ all.filter (isSeen seen)) :
      (m.version : Int) ≤ newest seen := by
    obtain ⟨there, was⟩ := List.mem_filter.mp member
    exact le_newest ordered ((seen_iff there).mp was)
  refine ⟨all.filter (isSeen seen), ?_, ?_⟩
  · -- The remembered ones come first, since none of the others is below the newest of them.
    apply eq_of_sorted_versions all_sorted
    · apply List.pairwise_append.mpr
      refine ⟨all_sorted.filter _, all_sorted.filter _, ?_⟩
      intro a older b newer
      exact (low older).trans_lt (above b newer)
    · intro m
      rw [List.mem_append, List.mem_filter, List.mem_filter, ← and_or_left]
      cases isSeen seen m <;> simp
  · apply eq_of_sorted_versions ordered
    · exact List.pairwise_map.mpr (all_sorted.filter _)
    · intro a
      rw [List.mem_map]
      constructor
      · intro member
        obtain ⟨m, there, rfl⟩ := known a member
        exact ⟨m, List.mem_filter.mpr ⟨there, (seen_iff there).mpr member⟩, rfl⟩
      · rintro ⟨m, member, rfl⟩
        obtain ⟨there, was⟩ := List.mem_filter.mp member
        exact (seen_iff there).mp was

/-- After the first migrations the others are left. -/
theorem pending_of_ran {ran new : List Migration} (split : all = ran ++ new) :
    pending (ran.map (record checksum)) checksum = .ok new := by
  have sorted : (ran ++ new).Pairwise fun a b => (a.version : Int) < b.version := split ▸ all_sorted
  obtain ⟨-, -, apart⟩ := List.pairwise_append.mp sorted
  have known {m : Migration} (there : m ∈ ran ++ new) : m ∈ all := split ▸ there
  apply pending_eq_ok_iff.mpr
  refine ⟨?_, ?_, ?_⟩
  · intro a member
    obtain ⟨m, there, rfl⟩ := List.mem_map.mp member
    exact ⟨m, known (List.mem_append_left _ there), rfl⟩
  · rw [split, List.filter_append]
    have old : ran.filter (!isSeen (ran.map (record checksum)) ·) = [] := by
      apply List.filter_eq_nil_iff.mpr
      intro m there
      simpa [isSeen] using ⟨m, there, rfl⟩
    have left : new.filter (!isSeen (ran.map (record checksum)) ·) = new := by
      apply List.filter_eq_self.mpr
      intro m there
      simpa [isSeen, record] using fun a before => ne_of_lt (apart a before m there)
    rw [old, left, List.nil_append]
  · intro m there
    rcases ran.eq_nil_or_concat' with rfl | ⟨front, last, rfl⟩
    · exact version_pos (known there)
    · have before := apart last (List.mem_append_right _ (List.mem_singleton_self _)) m there
      simpa [newest, record] using before

/-! ## Lines of the record -/

/-- The line that a migration leaves in the record. -/
def line (checksum : Migration → UInt64) (m : Migration) (now : Instant) : List Cell :=
  [.integer m.version, .text m.name, .text (String.ofList (Rfc3339.render now)),
    .text (toString (checksum m).toNat)]

theorem readNat?_toString (n : Nat) : readNat? (toString n) = some n := by
  have digits : (toString n).toList = Nat.toDigits 10 n := by
    rw [Nat.toString_eq_repr, Nat.toList_repr]
  obtain ⟨c, rest, starts⟩ := List.exists_cons_of_ne_nil (Nat.toDigits_ne_nil (b := 10) (n := n))
  have each : ∀ d ∈ c :: rest, Rfc3339.isDigit d = true := by
    intro d member
    rw [Rfc3339.isDigit_eq]
    exact Json.isDigit_of_mem_toDigits (starts ▸ member)
  have value : (c :: rest).foldl (fun n c => 10 * n + Rfc3339.digitValue c) 0 = n := by
    rw [← starts]
    exact Nat.ofDigitChars_ten_toDigits
  -- The first character is a digit and no sign.
  have unsigned : c ≠ '+' := by
    rintro rfl
    exact absurd (each _ List.mem_cons_self) (by decide)
  have visible : (c :: rest).all Rfc3339.isDigit = true := List.all_eq_true.mpr each
  rw [readNat?, digits, starts]
  split
  next more same => exact absurd (List.cons.inj same).1 unsigned
  · rw [visible, value]
    rfl

/-- The line of a migration is read as the record of it. -/
theorem ofRow_line (m : Migration) {now : Instant} (regular : now.Regular) (number : Nat) :
    Applied.ofRow ⟨number, line checksum m now⟩ = .ok (m.record checksum) := by
  have version : (Row.mk number (line checksum m now)).cell 0 = .integer m.version := rfl
  have name : (Row.mk number (line checksum m now)).cell 1 = .text m.name := rfl
  have on : (Row.mk number (line checksum m now)).cell 2 =
      .text (String.ofList (Rfc3339.render now)) := rfl
  have sum : (Row.mk number (line checksum m now)).cell 3 =
      .text (toString (checksum m).toNat) := rfl
  have small : (checksum m).toNat < UInt64.size := (checksum m).toNat_lt_size
  simp only [Applied.ofRow, version, name, on, sum, Place.integer, Place.text, bind, Except.bind,
    Rfc3339.read_render regular, Except.toBool, if_true, readNat?_toString, small]
  rfl

theorem version_of_ofRow {r : Row} {a : Applied} (read : Applied.ofRow r = .ok a) :
    r.cell 0 = .integer a.version := by
  unfold Applied.ofRow at read
  obtain ⟨version, first, read⟩ := Except.bind_eq_ok read
  have key : r.cell 0 = .integer version := by
    cases cell : r.cell 0 with
    | integer n =>
      rw [cell] at first
      cases first
      rfl
    | _ =>
      rw [cell] at first
      cases first
  obtain ⟨on, -, read⟩ := Except.bind_eq_ok read
  split at read
  · obtain ⟨sum, -, read⟩ := Except.bind_eq_ok read
    obtain ⟨name, -, read⟩ := Except.bind_eq_ok read
    split at read
    · split at read
      · cases read
        exact key
      · cases read
    · cases read
  · cases read

/-! ## Records in the order of versions -/

/-- No two lines of one version. -/
def DistinctVersions (rows : List Row) : Prop :=
  rows.Pairwise fun a b => (a.cell 0).sameValue (b.cell 0) = false

/-- A record with one line for each version is read in ascending order. -/
theorem sorted_of_read {rows : List Row} {seen : List Applied} (distinct : DistinctVersions rows)
    (read : (sortRows (rowLE [0]) rows).mapM Applied.ofRow = .ok seen) :
    seen.Pairwise fun a b => a.version < b.version := by
  have perm := sortRows_perm (rowLE [0]) rows
  have numbered : ∀ r ∈ rows, ∃ n, r.cell 0 = .integer n := by
    intro r member
    obtain ⟨a, -, line⟩ := ok_of_mem_mapM read (perm.mem_iff.mpr member)
    exact ⟨_, version_of_ofRow line⟩
  have ordered : (sortRows (rowLE [0]) rows).Pairwise
      fun a b => a.integerAt 0 ≤ b.integerAt 0 := by
    rw [sortRows_eq_byInteger numbered]
    exact List.pairwise_insertionSort _ _
  -- Two lines that were read have numbers for versions, so these differ as numbers.
  have apart : rows.Pairwise fun a b => a.integerAt 0 ≠ b.integerAt 0 := by
    apply distinct.imp_of_mem
    intro a b ha hb other same
    obtain ⟨m, hm⟩ := numbered a ha
    obtain ⟨n, hn⟩ := numbered b hb
    rw [Row.integerAt_eq hm, Row.integerAt_eq hn] at same
    rw [hm, hn, same] at other
    simp [Cell.sameValue, Cell.compareTo] at other
  have apart := (perm.pairwise_iff fun differ => Ne.symm differ).mpr apart
  have versions : (sortRows (rowLE [0]) rows).map (Row.integerAt 0) = seen.map (·.version) := by
    have each := (mapM_eq_ok_iff.mp read).imp fun r a line =>
      Row.integerAt_eq (version_of_ofRow line)
    exact List.forall₂_eq_eq_eq ▸
      List.forall₂_map_left_iff.mpr (List.forall₂_map_right_iff.mpr each)
  have ascending : (sortRows (rowLE [0]) rows).Pairwise
      fun a b => a.integerAt 0 < b.integerAt 0 :=
    (ordered.and apart).imp fun both => lt_of_le_of_ne both.1 both.2
  rw [← List.pairwise_map, versions, List.pairwise_map] at ascending
  exact ascending

theorem sortRows_concat {le : Row → Row → Bool} {rows : List Row} {r : Row}
    (last : ∀ s ∈ rows, le s r = true) : sortRows le (rows ++ [r]) = sortRows le rows ++ [r] := by
  have insert (s : Row) (before : le s r = true) (sorted : List Row) :
      insertRow le s (sorted ++ [r]) = insertRow le s sorted ++ [r] := by
    induction sorted with
    | nil => exact if_pos before
    | cons t rest ih =>
      rw [List.cons_append, insertRow, insertRow, ih]
      split <;> rfl
  induction rows with
  | nil => rfl
  | cons s rest ih =>
    have behind := ih fun t member => last t (List.mem_cons_of_mem s member)
    change insertRow le s (sortRows le (rest ++ [r])) = insertRow le s (sortRows le rest) ++ [r]
    rw [behind, insert s (last s List.mem_cons_self)]

/-! ## Databases and their record -/

/-- The record of a database: a table that no guard restricts, with the lines of some migrations. -/
structure Records (checksum : Migration → UInt64) (db : Database) (ran : List Migration) :
    Prop where
  unguarded : db.Unguarded .history
  read : applied db = .ok (ran.map (record checksum))

variable {db : Database} {ran new : List Migration} {now : Instant}

theorem applied_eq (unguarded : db.Unguarded .history) :
    applied db = (sortRows (rowLE [0]) (db.rowsOf .history)).mapM Applied.ofRow := by
  rw [applied, unguarded.selectAll]

/-- Every line is that of a migration. -/
theorem Records.version_of_mem (records : Records checksum db ran) {r : Row}
    (member : r ∈ db.rowsOf .history) : ∃ m ∈ ran, r.cell 0 = .integer m.version := by
  have read := records.read
  rw [applied_eq records.unguarded] at read
  obtain ⟨a, there, line⟩ := ok_of_mem_mapM read ((sortRows_perm _ _).mem_iff.mpr member)
  obtain ⟨m, known, rfl⟩ := List.mem_map.mp there
  exact ⟨m, known, version_of_ofRow line⟩

/-- Every migration has its line. -/
theorem Records.exists_line (records : Records checksum db ran) {m : Migration} (there : m ∈ ran) :
    ∃ r ∈ db.rowsOf .history, r.cell 0 = .integer m.version := by
  have read := records.read
  rw [applied_eq records.unguarded] at read
  obtain ⟨r, member, line⟩ := exists_of_mem_mapM read (List.mem_map_of_mem there)
  exact ⟨r, (sortRows_perm _ _).mem_iff.mp member, version_of_ofRow line⟩

theorem get?_ensure {name : TableName} {t : Table} (there : db.get? name = some t)
    (other : TableName) : (ensure db other).get? name = some t := by
  unfold ensure
  split
  · exact there
  next absent =>
    have apart : name ≠ other := by
      rintro rfl
      rw [there] at absent
      cases absent
    rwa [Database.get?_set_of_ne db apart]

theorem get?_foldl_ensure {name : TableName} {t : Table} (there : db.get? name = some t)
    (others : List TableName) : (others.foldl ensure db).get? name = some t := by
  induction others generalizing db with
  | nil => exact there
  | cons other others ih => exact ih (get?_ensure there other)

theorem rowsOf_eq {name : TableName} {t : Table} (there : db.get? name = some t) :
    db.rowsOf name = t.rows := by
  rw [Database.rowsOf, there]
  rfl

/-- A line is added when there is none of its version. -/
theorem insert_line (unguarded : db.Unguarded .history) {m : Migration}
    (free : ∀ r ∈ db.rowsOf .history, (r.cell 0).sameValue (.integer m.version) = false) :
    db.insert .history (line checksum m now) =
      .ok (db.withRows .history (added (db.rowsOf .history) (line checksum m now))) := by
  have absent : (ofRows (db.rowsOf .history)).find? ((line checksum m now).headD .null) = none := by
    apply List.find?_eq_none.mpr
    intro r member same
    have other : (r.cell 0).sameValue ((line checksum m now).headD .null) = false := free r member
    rw [other] at same
    cases same
  have complete : checkNew .history (ofRows (db.rowsOf .history)) (line checksum m now) = .ok () :=
    checkNew_ofRows rfl
  rw [Database.insert, unguarded.table_eq]
  change Table.insert .history (ofRows (db.rowsOf .history)) (line checksum m now) >>= _ = _
  rw [Table.insert, complete]
  simp only [bind, Except.bind, absent]
  rfl

/-- The next migration runs, and its line comes last. -/
theorem Records.apply (records : Records checksum db ran) {m : Migration}
    (split : all = ran ++ m :: new) (regular : now.Regular) :
    ∃ db', m.apply db now checksum = .ok db' ∧ Records checksum db' (ran ++ [m]) := by
  have sorted : (ran ++ m :: new).Pairwise fun a b => (a.version : Int) < b.version :=
    split ▸ all_sorted
  have above {m' : Migration} (before : m' ∈ ran) : (m'.version : Int) < m.version :=
    (List.pairwise_append.mp sorted).2.2 m' before m List.mem_cons_self
  have there := get?_foldl_ensure records.unguarded m.tables
  obtain ⟨made, made_eq⟩ : ∃ made, made = m.tables.foldl ensure db := ⟨_, rfl⟩
  rw [← made_eq] at there
  have rows : made.rowsOf .history = db.rowsOf .history := rowsOf_eq there
  have unguarded : made.Unguarded .history := by rw [Database.Unguarded, rows, there]
  -- The versions ascend, so the line of this one is new, and it is the last one in order.
  have free : ∀ r ∈ made.rowsOf .history, (r.cell 0).sameValue (.integer m.version) = false := by
    intro r member
    rw [rows] at member
    obtain ⟨m', before, cell⟩ := records.version_of_mem member
    have less := above before
    rw [cell, Bool.eq_false_iff]
    simp only [Cell.sameValue, Cell.compareTo, ne_eq, beq_iff_eq, Int.compare_eq_eq]
    omega
  have known : m ∈ all := split ▸ List.mem_append_right _ List.mem_cons_self
  refine ⟨made.withRows .history (added (made.rowsOf .history) (line checksum m now)), ?_,
    .withRows made .history _, ?_⟩
  · rw [Migration.apply, ← made_eq]
    have inserted : made.insert .history (line checksum m now) = _ := insert_line unguarded free
    rw [line] at inserted
    rw [inserted]
    rfl
  · have last : ∀ r ∈ db.rowsOf .history,
        rowLE [0] r ⟨(ofRows (db.rowsOf .history)).nextNumber, line checksum m now⟩ = true := by
      intro r member
      obtain ⟨m', before, cell⟩ := records.version_of_mem member
      exact (rowLE_iff_le cell rfl).mpr (above before).le
    have read := records.read
    rw [applied_eq records.unguarded] at read
    rw [applied_eq (.withRows made .history _), Database.rowsOf_withRows_self, rows, added,
      sortRows_concat last, List.mapM_append, read]
    simp only [bind, Except.bind, List.mapM_cons, List.mapM_nil, ofRow_line m regular, pure,
      Except.pure, List.map_append, List.map_cons, List.map_nil]

/-- One migration more, unless one before it was refused. -/
def runNext (checksum : Migration → UInt64) (now : Instant)
    (state : Database × Except Fault Unit) (m : Migration) : Database × Except Fault Unit :=
  match state.2 with
  | .error e => (state.1, .error e)
  | .ok () =>
    match m.apply state.1 now checksum with
    | .ok db => (db, .ok ())
    | .error e => (state.1, .error e)

theorem run_eq (checksum : Migration → UInt64) (db : Database) (now : Instant) :
    Migration.run db now checksum =
      match (applied (ensure db .history)).bind (pending · checksum) with
      | .error e => (ensure db .history, .error e)
      | .ok new =>
        ((new.foldl (runNext checksum now) (ensure db .history, .ok ())).1,
          (new.foldl (runNext checksum now) (ensure db .history, .ok ())).2.map fun _ => new) :=
  rfl

theorem Records.foldl (records : Records checksum db ran) (split : all = ran ++ new)
    (regular : now.Regular) :
    ∃ db', new.foldl (runNext checksum now) (db, .ok ()) = (db', .ok ()) ∧
      Records checksum db' all := by
  -- Whatever has run is what is recorded, and the rest goes on from there.
  induction new generalizing db ran with
  | nil =>
    rw [List.append_nil] at split
    exact ⟨db, rfl, split ▸ records⟩
  | cons m new ih =>
    obtain ⟨made, run, more⟩ := records.apply split regular
    have step : runNext checksum now (db, .ok ()) m = (made, .ok ()) := by simp only [runNext, run]
    rw [List.foldl_cons, step]
    apply ih more
    rw [split, List.append_assoc, List.singleton_append]

theorem ensure_of_unguarded {name : TableName} (unguarded : db.Unguarded name) :
    ensure db name = db := by
  rw [ensure, show db.get? name = _ from unguarded]

/-- All that are left run. -/
theorem Records.run (records : Records checksum (ensure db .history) ran) (split : all = ran ++ new)
    (regular : now.Regular) :
    ∃ db', Migration.run db now checksum = (db', .ok new) ∧ Records checksum db' all := by
  obtain ⟨db', done, more⟩ := records.foldl split regular
  have left : (applied (ensure db .history)).bind (pending · checksum) = .ok new := by
    rw [records.read, Except.bind, pending_of_ran split]
  refine ⟨db', ?_, more⟩
  rw [run_eq, left]
  simp only [done]
  rfl

/-- What runs was read and fits. -/
theorem read_of_run {db' : Database} (done : Migration.run db now checksum = (db', .ok new)) :
    ∃ seen left, applied (ensure db .history) = .ok seen ∧ pending seen checksum = .ok left := by
  rw [run_eq] at done
  cases fits : (applied (ensure db .history)).bind (pending · checksum) with
  | error e =>
    rw [fits] at done
    cases done
  | ok left =>
    obtain ⟨seen, read, fits⟩ := Except.bind_eq_ok fits
    exact ⟨seen, left, read, fits⟩

/-- Once all migrations are recorded nothing is left to run. -/
theorem Records.run_again (records : Records checksum db all) (now : Instant) :
    Migration.run db now checksum = (db, .ok []) := by
  have none_left : pending (all.map (record checksum)) checksum = .ok [] :=
    pending_of_ran (List.append_nil all).symm
  have left : (applied db).bind (pending · checksum) = .ok [] := by
    rw [records.read, Except.bind, none_left]
  rw [run_eq, ensure_of_unguarded records.unguarded, left]
  rfl

/-! ## The version of a database -/

/-- The greatest version of a record is that of the last migration. -/
theorem Records.greatest {last : Migration} (records : Records checksum db (ran ++ [last]))
    (split : all = ran ++ [last] ++ new) :
    Database.greatest (db.rowsOf .history) = .integer last.version := by
  have sorted : (ran ++ [last]).Pairwise fun a b => (a.version : Int) < b.version :=
    (List.pairwise_append.mp (split ▸ all_sorted)).1
  have most {m : Migration} (there : m ∈ ran ++ [last]) : (m.version : Int) ≤ last.version := by
    rcases List.mem_append.mp there with before | same
    · exact ((List.pairwise_append.mp sorted).2.2 m before last (List.mem_singleton_self _)).le
    · rw [List.mem_singleton.mp same]
  obtain ⟨r, member, cell⟩ :=
    records.exists_line (List.mem_append_right ran (List.mem_singleton_self last))
  have listed : r.cell 0 ∈ ((db.rowsOf .history).map (·.cell 0)).filter (· != .null) :=
    List.mem_filter.mpr ⟨List.mem_map_of_mem member, by rw [cell]; rfl⟩
  -- It is above everything below the last version, and it is one of the versions.
  have above : (Database.greatest (db.rowsOf .history)).IsAbove (last.version - 1) := by
    apply Cell.isAbove_foldl
    exact .inr ⟨_, listed, by rw [cell, Cell.isAbove_integer]; omega⟩
  rcases Cell.foldl_greater_mem (((db.rowsOf .history).map (·.cell 0)).filter (· != .null)) .null
    with nothing | among
  · rw [Database.greatest, nothing] at above
    cases above
  · obtain ⟨r', member', same⟩ := List.mem_map.mp (List.mem_filter.mp among).1
    obtain ⟨m, there, cell'⟩ := records.version_of_mem member'
    have value : Database.greatest (db.rowsOf .history) = .integer m.version :=
      same.symm.trans cell'
    rw [value, Cell.isAbove_integer] at above
    have bound := most there
    rw [value, show (m.version : Int) = last.version by omega]

/-- The version that is looked up is that of the last migration. -/
theorem Records.schemaVersion (records : Records checksum db ran) (split : all = ran ++ new) :
    db.schemaVersion = .ok (ran.getLast?.map fun m => (m.version : Int)) := by
  have there : db.history = some (ofRows (db.rowsOf .history)) := records.unguarded
  rw [Database.schemaVersion_eq there, ofRows_rows]
  rcases ran.eq_nil_or_concat' with rfl | ⟨front, last, rfl⟩
  · have empty : db.rowsOf .history = [] := by
      apply List.eq_nil_iff_forall_not_mem.mpr
      intro r member
      obtain ⟨m, none, -⟩ := records.version_of_mem member
      cases none
    rw [empty]
    rfl
  · have known : last ∈ all :=
      split ▸ List.mem_append_left _ (List.mem_append_right _ (List.mem_singleton_self _))
    rw [records.greatest split, List.getLast?_concat]
    simp only [Place.integer?, Place.integer, Except.map, Option.filter, version_pos known,
      decide_true, if_true, Option.map_some]

theorem Records.checkVersion (records : Records checksum db ran) (split : all = ran ++ new) :
    db.checkVersion = .ok () := by
  rw [Database.checkVersion, records.schemaVersion split]
  cases last : ran.getLast? with
  | none => rfl
  | some m =>
    have known : m ∈ all := split ▸ List.mem_append_left _ (List.mem_of_getLast? last)
    have old : ¬ (Version.schema : Int) < m.version :=
      not_lt.mpr (Int.ofNat_le.mpr (version_le_schema known))
    simp only [Option.map_some, bind, Except.bind, if_neg old]
    rfl

end Migration

/-! ## Prepared databases -/

namespace Database

open Migration (Records)

/-- Whatever the lines of the record are, no guard restricts it, and a version is in it once. -/
structure PlainHistory (db : Database) : Prop where
  free : ∀ t, db.history = some t → t.guards = []
  distinct : Migration.DistinctVersions (db.rowsOf .history)

/-- The record is that of the first migrations. -/
def IsKnown (db : Database) (checksum : Migration → UInt64) : Prop :=
  ∃ ran : List Migration, ran.IsPrefix Migration.all ∧
    Migration.applied (Migration.ensure db .history) = .ok (ran.map (Migration.record checksum))

variable {db db' : Database} {now : Instant} {checksum : Migration → UInt64}

theorem rowsOf_ensure (db : Database) (name : TableName) :
    (Migration.ensure db name).rowsOf name = db.rowsOf name := by
  rw [Migration.ensure]
  cases there : db.get? name with
  | some t => rfl
  | none =>
    simp only [rowsOf, get?_set_self, there]
    rfl

theorem PlainHistory.ensured (plain : db.PlainHistory) :
    (Migration.ensure db .history).Unguarded .history := by
  rw [Unguarded, rowsOf_ensure, Migration.ensure]
  cases there : db.get? .history with
  | some t =>
    have free : t.guards = [] := plain.free t there
    rw [there, rowsOf, there, Option.map_some, Option.getD_some, ofRows, ← free]
  | none =>
    rw [get?_set_self, rowsOf, there]
    rfl

/-- A missing record is no reason to refuse a database. -/
theorem checkVersion_of_records {ran new : List Migration}
    (records : Records checksum (Migration.ensure db .history) ran)
    (split : Migration.all = ran ++ new) :
    db.checkVersion = .ok () := by
  cases there : db.history with
  | none =>
    rw [checkVersion, schemaVersion, there]
    rfl
  | some t =>
    have same : Migration.ensure db .history = db := by
      rw [Migration.ensure, show db.get? .history = some t from there]
    rw [same] at records
    exact records.checkVersion split

/-- A known database is prepared. -/
theorem IsKnown.prepare (known : db.IsKnown checksum) (plain : db.PlainHistory)
    (regular : now.Regular) : ∃ db' lines, db.prepare now checksum = (db', .ok lines) := by
  obtain ⟨ran, ⟨new, split⟩, read⟩ := known
  have records : Records checksum (Migration.ensure db .history) ran := ⟨plain.ensured, read⟩
  obtain ⟨db', run, -⟩ := records.run split.symm regular
  refine ⟨db', new.map fun m => .info ("✅ 已执行 migration: " ++ Migration.title m.version m.name), ?_⟩
  rw [Database.prepare, checkVersion_of_records records split.symm]
  simp only [migrate, run]

/-- What is prepared was known, and all migrations are recorded in it. -/
theorem records_of_prepare (plain : db.PlainHistory) (regular : now.Regular) {lines : List LogLine}
    (done : db.prepare now checksum = (db', .ok lines)) :
    db.IsKnown checksum ∧ Records checksum db' Migration.all := by
  rw [prepare] at done
  split at done
  · cases done
  rw [migrate] at done
  cases run : Migration.run db now checksum with
  | mk db'' result =>
    rw [run] at done
    cases result with
    | error e => cases done
    | ok new =>
      cases done
      obtain ⟨seen, left, read, fits⟩ := Migration.read_of_run run
      have each := read
      rw [Migration.applied_eq plain.ensured, rowsOf_ensure] at each
      obtain ⟨ran, split, rfl⟩ :=
        Migration.exists_of_pending (Migration.sorted_of_read plain.distinct each) fits
      have records : Records checksum (Migration.ensure db .history) ran := ⟨plain.ensured, read⟩
      obtain ⟨db', again, all⟩ := records.run split regular
      rw [again] at run
      obtain ⟨rfl, -⟩ := Prod.mk.inj run
      exact ⟨⟨ran, ⟨left, split.symm⟩, read⟩, all⟩

/-- There is nothing left to do for a database that was prepared. -/
theorem prepare_again (records : Records checksum db Migration.all) (later : Instant) :
    db.prepare later checksum = (db, .ok []) := by
  have split : Migration.all = Migration.all ++ [] := (List.append_nil _).symm
  rw [prepare, records.checkVersion split]
  simp only [migrate, records.run_again later, List.map_nil]

end Database

/-! ## Stores of newer databases -/

namespace Storage

/-- A shut store with another database in its file. -/
def refilled (s : Storage) (full : List String) (db : Database) : Storage :=
  { s with disk := s.disk.putDatabase full db }

variable {s s₁ : Storage} {full : List String} {db db' : Database} {now later : Instant}
  {checksum : Migration → UInt64}

/-- Once its file holds a known database, a store that was refused opens. -/
theorem ensureOpen_refilled (reached : s.connect = (s₁, .ok (.file full)))
    (there : s₁.disk.database? full = some db) (known : db'.IsKnown checksum)
    (plain : db'.PlainHistory)
    (regular : later.Regular) :
    ∃ s₂ lines,
      (refilled { s₁ with disk := s₁.disk.putDatabase full db, connection := none } full
        db').ensureOpen later checksum = (s₂, lines, .ok ()) ∧
      s₂.isOpen = true ∧ s₂.database? = some (db'.prepare later checksum).1 := by
  obtain ⟨db'', told, prepared⟩ := known.prepare plain regular
  obtain ⟨s', s'_eq⟩ : ∃ s', s' = refilled
    { s₁ with disk := s₁.disk.putDatabase full db, connection := none } full db' := ⟨_, rfl⟩
  have place : s'.location = s.location := by
    rw [s'_eq, ← (connect_kept s).2, reached]
    rfl
  have holds : s'.disk.database? full = some db' := by
    rw [s'_eq]
    exact Disk.database?_putDatabase _ full db'
  have keeps : s₁.disk.KeepsDirectories s'.disk := by
    rw [s'_eq]
    -- The file was no directory before, and with a database in it it is none either.
    have file := isDirectory_of_connect reached there
    have still := Disk.isDirectory_putDatabase file db
    exact (Disk.keepsDirectories_put file _).trans (Disk.keepsDirectories_put still _)
  have shut : s'.isOpen = false := by rw [s'_eq]; rfl
  obtain ⟨lines, opened⟩ := ensureOpen_of_prepared shut (connect_again reached place keeps holds)
    holds prepared
  rw [← s'_eq]
  refine ⟨_, lines, opened, rfl, ?_⟩
  rw [prepared]
  simp only [database?, Disk.database?_putDatabase, Option.getD_some]

end Storage

namespace Database

/-- A time at which databases are prepared. -/
def sampleTime : Instant := ⟨1735689600, 123456789⟩

/-- A database that was prepared. -/
def sample : Database := (Database.empty.prepare sampleTime).1

/-- The same after a later release has added a migration. -/
def sampleAhead : Database :=
  sample.withRows .history (added (sample.rowsOf .history)
    [.integer 3, .text "future", .text "", .text "0"])

/-- A disk with nothing on it but the file of that database. -/
def sampleDisk : Disk := ⟨[(["store.db"], .file (.database sampleAhead))]⟩

theorem plainHistory_empty : Database.empty.PlainHistory := by
  constructor
  · intro t there
    cases there
  · exact .nil

theorem prepare_empty_eq : ∃ lines, Database.empty.prepare sampleTime = (sample, .ok lines) :=
  ⟨_, rfl⟩

theorem plainHistory_sample : sample.PlainHistory := by
  constructor
  · intro t there
    cases there
    rfl
  · rw [Migration.DistinctVersions]
    decide +kernel

theorem plainHistory_sampleAhead : sampleAhead.PlainHistory where
  free t there := by
    cases there
    rfl
  distinct := by
    rw [Migration.DistinctVersions]
    decide

theorem connect_sample : (Storage.closed sampleDisk (.file "store.db")).connect =
    (Storage.closed sampleDisk (.file "store.db"), .ok (.file ["store.db"])) := by
  have above : Disk.parts (Disk.parent "store.db") = [] := by decide
  have resolved : sampleDisk.resolve "store.db" = .ok ["store.db"] := by
    rw [Disk.resolve, show Disk.parts "store.db" = ["store.db"] by decide]
    rfl
  have named : "store.db".endsWith "/" = false := by decide +kernel
  have opened : sampleDisk.openDatabase "store.db" = .ok (sampleDisk, ["store.db"], true) := by
    rw [Disk.openDatabase, resolved]
    simp only [named, Bool.or_false]
    rfl
  have made : sampleDisk.makeDirectories [] = .ok sampleDisk := rfl
  simp only [Storage.connect, Storage.closed, above, made, opened, if_true]

end Database

end Outbox
