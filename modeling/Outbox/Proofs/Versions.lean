import Outbox.Proofs.Rounding
import Outbox.Proofs.Transactions

/-!
# Newer databases

A record of migrations may hold anything: numbers of all kinds, texts, nothing. What counts is the
greatest version in the order of cells, and one that is above the known ones stops the preparation
before anything is changed. That takes the order of cells as a whole: whatever the greatest cell is,
it is above every number that some cell of the record is above.

A store whose file is refused stays closed and leaves the file alone, so it can be opened as soon as
the file holds something that can be prepared.
-/
namespace Outbox

open Table Time

/-! ## The order of cells -/

namespace Number.Binary64

/-- The numerator of a double, with its sign; all doubles have one denominator. -/
def numerator (x : Binary64) : Int := if x.negative then -(x.ratio.1 : Int) else x.ratio.1

theorem denominator_pos (x : Binary64) : 0 < x.ratio.2 := by
  -- The exponent is left open, so that no power is computed.
  have shifted (k : Nat) : 0 < 1 <<< k := by
    rw [Nat.shiftLeft_eq, Nat.one_mul]
    exact Nat.pow_pos Nat.two_pos
  exact shifted 1074

/-- Bits that are nothing are worth nothing, so a zero may have either sign. -/
theorem ratio_of_zero {x : Binary64} (zero : x.bits.val = 0) : x.ratio.1 = 0 := by
  have significand : x.significand = 0 := by
    rw [Binary64.significand, zero, if_pos hiddenBit_pos]
  rw [ratio, significand, Nat.zero_shiftLeft]

theorem numerator_mono {x y : Binary64} (order : y.compareTo x ≠ .lt) :
    x.numerator ≤ y.numerator := by
  simp only [compareTo, ne_eq, Std.compare_eq_lt, not_lt] at order
  unfold numerator
  cases hx : x.negative <;> cases hy : y.negative
  all_goals simp only [hx, hy, if_true, Bool.false_eq_true, if_false] at order ⊢
  · have mono := magnitude_mono (x := x) (y := y) (by exact Int.ofNat_le.mp order)
    omega
  · have hx := ratio_of_zero (x := x) (by omega)
    have hy := ratio_of_zero (x := y) (by omega)
    omega
  · omega
  · have mono := magnitude_mono (x := y) (y := x) (show y.bits.val ≤ x.bits.val by omega)
    omega

end Number.Binary64

namespace Table.Cell

open Number

theorem compareWithReal_eq (n : Int) (x : Binary64) :
    compareWithReal n x = compare (n * (x.ratio.2 : Int)) x.numerator := rfl

theorem compareTo_swap (a b : Cell) : b.compareTo a = (a.compareTo b).swap := by
  cases a <;> cases b
  all_goals simp only [compareTo, Binary64.compareTo, Ordering.swap_swap]
  all_goals exact Std.OrientedCmp.eq_swap

/-- A cell is above a number. -/
def IsAbove (v : Int) (c : Cell) : Prop := c.compareTo (.integer v) = .gt

instance (v : Int) (c : Cell) : Decidable (c.IsAbove v) := inferInstanceAs (Decidable (_ = _))

theorem isAbove_integer {v n : Int} : (Cell.integer n).IsAbove v ↔ v < n := by
  rw [IsAbove, compareTo, Int.compare_eq_gt]

theorem isAbove_real {v : Int} {x : Binary64} :
    (Cell.real x).IsAbove v ↔ v * (x.ratio.2 : Int) < x.numerator := by
  rw [IsAbove, compareTo, Ordering.swap_eq_gt, compareWithReal_eq, Int.compare_eq_lt]

/-- What is not less than a cell above a number is above the number too. -/
theorem IsAbove.mono {v : Int} {a b : Cell} (above : a.IsAbove v) (le : b.compareTo a ≠ .lt) :
    b.IsAbove v := by
  cases a with
  | null => cases above
  | integer n =>
    rw [isAbove_integer] at above
    cases b with
    | null => exact absurd rfl le
    | integer m =>
      rw [compareTo, ne_eq, Int.compare_eq_lt, not_lt] at le
      exact isAbove_integer.mpr (above.trans_le le)
    | real y =>
      rw [compareTo, ne_eq, Ordering.swap_eq_lt, compareWithReal_eq, Int.compare_eq_gt,
        not_lt] at le
      have positive : 0 < (y.ratio.2 : Int) := Int.natCast_pos.mpr y.denominator_pos
      exact isAbove_real.mpr ((Int.mul_lt_mul_of_pos_right above positive).trans_le le)
    | text t => rfl
    | blob bytes => rfl
  | real x =>
    rw [isAbove_real] at above
    cases b with
    | null => exact absurd rfl le
    | integer m =>
      rw [compareTo, ne_eq, compareWithReal_eq, Int.compare_eq_lt, not_lt] at le
      -- Both are compared with the one denominator that all doubles have.
      have product : v * (x.ratio.2 : Int) < m * (x.ratio.2 : Int) := above.trans_le le
      exact isAbove_integer.mpr (lt_of_mul_lt_mul_right product (Int.natCast_nonneg _))
    | real y => exact isAbove_real.mpr (above.trans_le (Binary64.numerator_mono le))
    | text t => rfl
    | blob bytes => rfl
  | text s =>
    cases b with
    | text t => rfl
    | blob bytes => rfl
    | null | integer | real => exact absurd rfl le
  | blob bytes =>
    cases b with
    | blob more => rfl
    | null | integer | real | text => exact absurd rfl le

/-- The greater one of two cells; of equal ones the first. -/
def greater (best c : Cell) : Cell :=
  if best == .null || (best.compareTo c == .lt) then c else best

theorem isAbove_greater {v : Int} {best c : Cell} (above : best.IsAbove v ∨ c.IsAbove v) :
    (greater best c).IsAbove v := by
  unfold greater
  split
  next passed =>
    rcases above with above | above
    · -- The first one is not nothing, so it is less than the second one.
      have less : best.compareTo c = .lt := by
        rw [Bool.or_eq_true, beq_iff_eq, beq_iff_eq] at passed
        refine passed.resolve_left fun none => ?_
        subst none
        cases above
      exact above.mono (by rw [compareTo_swap, less]; decide)
    · exact above
  next kept =>
    rcases above with above | above
    · exact above
    · refine above.mono fun less => kept ?_
      rw [less]
      simp

theorem foldl_greater_mem (cells : List Cell) (best : Cell) :
    cells.foldl greater best = best ∨ cells.foldl greater best ∈ cells := by
  induction cells generalizing best with
  | nil => exact .inl rfl
  | cons c cells ih =>
    rw [List.foldl_cons]
    rcases ih (greater best c) with same | later
    · rw [same, greater]
      split
      · exact .inr List.mem_cons_self
      · exact .inl rfl
    · exact .inr (List.mem_cons_of_mem c later)

theorem isAbove_foldl {v : Int} {cells : List Cell} {best : Cell}
    (above : best.IsAbove v ∨ ∃ c ∈ cells, c.IsAbove v) : (cells.foldl greater best).IsAbove v := by
  induction cells generalizing best with
  | nil =>
    rcases above with above | ⟨c, none, -⟩
    · exact above
    · cases none
  | cons c cells ih =>
    refine ih ?_
    rcases above with above | ⟨d, member, above⟩
    · exact .inl (isAbove_greater (.inl above))
    · rcases List.mem_cons.mp member with rfl | later
      · exact .inl (isAbove_greater (.inr above))
      · exact .inr ⟨d, later, above⟩

end Table.Cell

/-! ## Refused versions -/

namespace Database

/-- Some version in the record is above the newest one that is known. -/
def IsNewer (db : Database) : Prop :=
  ∃ r ∈ db.rowsOf .history, (r.cell 0).IsAbove Version.schema

instance (db : Database) : Decidable db.IsNewer :=
  inferInstanceAs (Decidable (∃ r ∈ db.rowsOf .history, _))

variable {db : Database}

/-- The greatest version of the record, as it is looked up. -/
def greatest (rows : List Row) : Cell :=
  ((rows.map (·.cell 0)).filter (· != .null)).foldl Cell.greater .null

theorem schemaVersion_eq {t : Table} (there : db.history = some t) :
    db.schemaVersion =
      match Place.integer? ⟨0, "MAX(version)"⟩ (greatest t.rows) with
      | .error e => .error (.database ("读取 schema 版本失败: " ++ e.message))
      | .ok version => .ok (version.filter (0 < ·)) := by
  rw [schemaVersion, there]
  rfl

theorem checkVersion_of_newer (newer : db.IsNewer) :
    ∃ reason, db.checkVersion = .error (.database reason) := by
  obtain ⟨r, member, above⟩ := newer
  obtain ⟨t, there, inside⟩ : ∃ t, db.history = some t ∧ r ∈ t.rows := by
    cases there : db.history with
    | none => simp [rowsOf, get?, there] at member
    | some t => exact ⟨t, rfl, by simpa [rowsOf, get?, there] using member⟩
  have top : (greatest t.rows).IsAbove Version.schema := by
    refine Cell.isAbove_foldl (.inr ⟨r.cell 0, ?_, above⟩)
    refine List.mem_filter.mpr ⟨List.mem_map_of_mem inside, ?_⟩
    rw [bne_iff_ne]
    rintro none
    rw [none] at above
    cases above
  rw [checkVersion, schemaVersion_eq there]
  cases best : greatest t.rows with
  | integer n =>
    have above : (Version.schema : Int) < n := by rwa [best, Cell.isAbove_integer] at top
    have positive : 0 < n := (Int.natCast_nonneg _).trans_lt above
    simp only [Place.integer?, Place.integer, Except.map, Option.filter, positive, decide_true,
      if_true, bind, Except.bind, above]
    exact ⟨_, rfl⟩
  | null =>
    rw [best] at top
    cases top
  | real | text | blob => exact ⟨_, rfl⟩

/-- A newer database is refused, and nothing in it is changed. -/
theorem prepare_of_newer (newer : db.IsNewer) (now : Instant) (checksum : Migration → UInt64) :
    ∃ reason, db.prepare now checksum = (db, .error (.database reason)) := by
  obtain ⟨reason, refused⟩ := checkVersion_of_newer newer
  exact ⟨reason, by rw [prepare, refused]⟩

end Database

/-! ## Files that stay in reach -/

namespace Disk

/-- Every directory of a disk is one of another disk too. -/
def KeepsDirectories (d d' : Disk) : Prop :=
  ∀ path, d.isDirectory path = true → d'.isDirectory path = true

variable {d d' : Disk} {full : List String}

theorem isDirectory_iff {path : List String} :
    d.isDirectory path = true ↔ path = [] ∨ d.entryAt? path = some .directory := by
  unfold isDirectory
  split
  · simp
  next entry => simp [entry]
  next other => simp_all

theorem KeepsDirectories.trans {d'' : Disk} (first : d.KeepsDirectories d')
    (second : d'.KeepsDirectories d'') : d.KeepsDirectories d'' :=
  fun path there => second path (first path there)

/-- Where nothing but a file is or comes, the directories stay. -/
theorem keepsDirectories_put (other : d.isDirectory full = false) (e : DiskEntry) :
    d.KeepsDirectories (d.put full e) := by
  intro path there
  have apart : path ≠ full := by
    rintro rfl
    rw [there] at other
    cases other
  rwa [isDirectory_iff, entryAt?_put_of_ne d apart, ← isDirectory_iff]

theorem resolveParts_mono (keeps : d.KeepsDirectories d') {here ps : List String}
    (found : d.resolveParts here ps = .ok full) : d'.resolveParts here ps = .ok full := by
  induction ps generalizing here with
  | nil => exact found
  | cons p ps ih =>
    rw [resolveParts] at found ⊢
    split at found
    next there =>
      rw [if_pos (keeps here there)]
      exact ih found
    · split at found <;> cases found

theorem makeDirectory_of_there {ps : List String} (found : d.resolveParts [] ps = .ok full)
    (there : d.isDirectory full = true) : d.makeDirectory ps = .ok d := by
  have held : (full.isEmpty || (d.entryAt? full).isSome) = true := by
    rcases isDirectory_iff.mp there with rfl | entry
    · rfl
    · rw [entry, Option.isSome_some, Bool.or_true]
  rw [makeDirectory, found]
  simp only [bind, Except.bind, held, there, if_true]
  rfl

/-- A directory that was made is there. -/
theorem there_of_makeDirectory {ps : List String} (made : d.makeDirectory ps = .ok d') :
    ∃ full, d'.resolveParts [] ps = .ok full ∧ d'.isDirectory full = true := by
  obtain ⟨full, found, made⟩ := Except.bind_eq_ok made
  split at made
  · split at made
    next there =>
      cases made
      exact ⟨full, found, there⟩
    · cases made
  next free =>
    cases made
    simp only [Bool.or_eq_true, not_or, Bool.not_eq_true] at free
    obtain ⟨named, absent⟩ := free
    have other : d.isDirectory full = false := by
      rw [Bool.eq_false_iff, ne_eq, isDirectory_iff]
      rintro (rfl | entry)
      · cases named
      · rw [entry] at absent
        cases absent
    refine ⟨full, resolveParts_mono (keepsDirectories_put other _) found, ?_⟩
    exact isDirectory_iff.mpr (.inr List.lookup_cons_self)

theorem there_of_makeDirectories {ps : List String} (made : d.makeDirectories ps = .ok d') :
    ∃ full, d'.resolveParts [] ps = .ok full ∧ d'.isDirectory full = true := by
  rw [makeDirectories] at made
  cases reversed : ps.reverse with
  | nil =>
    obtain rfl := List.reverse_eq_nil_iff.mp reversed
    exact ⟨[], rfl, rfl⟩
  | cons last above =>
    have parts : (last :: above).reverse = ps := by rw [← reversed, List.reverse_reverse]
    rw [reversed, makeDirectoriesUp, parts] at made
    split at made
    · obtain ⟨d₁, -, made⟩ := Except.bind_eq_ok made
      exact there_of_makeDirectory made
    · exact there_of_makeDirectory made

/-- Directories that were made are found again. -/
theorem makeDirectories_again {ps : List String} (made : d.makeDirectories ps = .ok d')
    {d'' : Disk} (keeps : d'.KeepsDirectories d'') : d''.makeDirectories ps = .ok d'' := by
  obtain ⟨full, found, there⟩ := there_of_makeDirectories made
  have again := makeDirectory_of_there (resolveParts_mono keeps found) (keeps full there)
  rw [makeDirectories]
  cases reversed : ps.reverse with
  | nil => rfl
  | cons last above =>
    have parts : (last :: above).reverse = ps := by rw [← reversed, List.reverse_reverse]
    rw [makeDirectoriesUp, parts, again]

/-- A file that is opened for a database is no directory, and it is made when it is missing. -/
theorem openDatabase_cases {path : String} {readable : Bool}
    (opened : d.openDatabase path = .ok (d', full, readable)) :
    d.resolve path = .ok full ∧ d.isDirectory full = false ∧ path.endsWith "/" = false ∧
      (d' = d ∨ d.database? full = none ∧ d' = d.putDatabase full .empty) := by
  unfold openDatabase at opened
  split at opened
  · cases opened
  next here found =>
    split at opened
    · cases opened
    next file =>
      simp only [Bool.or_eq_true, not_or, Bool.not_eq_true] at file
      obtain ⟨other, named⟩ := file
      split at opened
      next absent =>
        cases opened
        have before : d.database? full = none := by simp only [database?, absent]
        exact ⟨found, other, named, .inr ⟨before, rfl⟩⟩
      · cases opened
        exact ⟨found, other, named, .inl rfl⟩
      next text present =>
        split at opened
        · cases opened
          have before : d.database? full = none := by simp only [database?, present]
          exact ⟨found, other, named, .inr ⟨before, rfl⟩⟩
        · cases opened
          exact ⟨found, other, named, .inl rfl⟩
      · cases opened

theorem keepsDirectories_openDatabase {path : String} {readable : Bool}
    (opened : d.openDatabase path = .ok (d', full, readable)) : d.KeepsDirectories d' := by
  obtain ⟨-, other, -, same | ⟨-, made⟩⟩ := openDatabase_cases opened
  · rw [same]
    exact fun path there => there
  · rw [made]
    exact keepsDirectories_put other _

/-- Where a database is no directory is. -/
theorem isDirectory_of_database? {db : Database} (some_part : full ≠ [])
    (there : d.database? full = some db) : d.isDirectory full = false := by
  rw [Bool.eq_false_iff, ne_eq, isDirectory_iff]
  rintro (root | directory)
  · exact some_part root
  · rw [database?, directory] at there
    cases there

theorem isDirectory_putDatabase (other : d.isDirectory full = false) (db : Database) :
    (d.putDatabase full db).isDirectory full = false := by
  apply isDirectory_of_database? _ (d.database?_putDatabase full db)
  rintro rfl
  cases other

/-- A file that was opened for a database is opened again as long as it holds one. -/
theorem openDatabase_again {path : String} {readable : Bool}
    (opened : d.openDatabase path = .ok (d', full, readable)) {d'' : Disk}
    (keeps : d.KeepsDirectories d'') {db : Database} (there : d''.database? full = some db) :
    d''.openDatabase path = .ok (d'', full, true) := by
  obtain ⟨found, other, named, -⟩ := openDatabase_cases opened
  have some_part : full ≠ [] := by
    rintro rfl
    cases other
  have still := isDirectory_of_database? some_part there
  have entry : d''.entryAt? full = some (.file (.database db)) := by
    unfold database? at there
    split at there
    next entry =>
      cases there
      exact entry
    · cases there
  rw [openDatabase, show d''.resolve path = .ok full from resolveParts_mono keeps found]
  simp only [still, named, Bool.or_self, Bool.false_eq_true, if_false, entry]

/-- What is written at one path is there and leaves the databases at other paths alone. -/
theorem database?_putDatabase_of_ne {path : List String} (apart : path ≠ full) (db : Database) :
    (d.putDatabase full db).database? path = d.database? path := by
  rw [database?, putDatabase, entryAt?_put_of_ne d apart, database?]

end Disk

/-! ## Stores of a refused file -/

namespace Storage

variable {s s₁ s' : Storage} {full : List String}

/-- What a store does to reach its file. -/
theorem connect_cases (reached : s.connect = (s₁, .ok (.file full))) :
    ∃ path disk, s.location = .file path ∧
      s.disk.makeDirectories (Disk.parts (Disk.parent path)) = .ok disk ∧
      disk.openDatabase path = .ok (s₁.disk, full, true) := by
  unfold connect at reached
  cases place : s.location with
  | memory =>
    rw [place] at reached
    cases reached
  | file path =>
    rw [place] at reached
    simp only at reached
    split at reached
    · cases reached
    next disk made =>
      split at reached
      · cases reached
      next opened =>
        split at reached
        next readable =>
          cases reached
          rw [readable] at opened
          exact ⟨path, disk, rfl, made, opened⟩
        · cases reached

/-- Reaching a file that holds a database leaves all databases alone. -/
theorem database?_of_connect (reached : s.connect = (s₁, .ok (.file full))) {db : Database}
    (there : s.disk.database? full = some db) (path : List String) :
    s₁.disk.database? path = s.disk.database? path := by
  obtain ⟨name, disk, -, made, opened⟩ := connect_cases reached
  rw [← Disk.makeDirectories_database? made]
  obtain ⟨-, -, -, same | ⟨absent, -⟩⟩ := Disk.openDatabase_cases opened
  · rw [same]
  · rw [Disk.makeDirectories_database? made, there] at absent
    cases absent

/-- A store that reached a file reaches it again as long as it holds a database. -/
theorem connect_again (reached : s.connect = (s₁, .ok (.file full)))
    (place : s'.location = s.location) (keeps : s₁.disk.KeepsDirectories s'.disk) {db : Database}
    (there : s'.disk.database? full = some db) : s'.connect = (s', .ok (.file full)) := by
  obtain ⟨path, disk, location, made, opened⟩ := connect_cases reached
  have kept : disk.KeepsDirectories s'.disk :=
    (Disk.keepsDirectories_openDatabase opened).trans keeps
  obtain ⟨disk', place', connection⟩ := s'
  obtain rfl : place' = .file path := place.trans location
  simp only [connect, Disk.makeDirectories_again made kept,
    Disk.openDatabase_again opened kept there, if_true]

/-- A file that was reached is no directory. -/
theorem isDirectory_of_connect (reached : s.connect = (s₁, .ok (.file full))) {db : Database}
    (there : s₁.disk.database? full = some db) : s₁.disk.isDirectory full = false := by
  obtain ⟨path, disk, -, -, opened⟩ := connect_cases reached
  obtain ⟨-, other, -, -⟩ := Disk.openDatabase_cases opened
  apply Disk.isDirectory_of_database? _ there
  rintro rfl
  cases other

/-- A shut store whose file is refused stays shut. -/
theorem ensureOpen_of_refused (shut : s.isOpen = false)
    (reached : s.connect = (s₁, .ok (.file full))) {db db' : Database}
    (there : s₁.disk.database? full = some db) {now : Instant} {fault : Error}
    {checksum : Migration → UInt64} (refused : db.prepare now checksum = (db', .error fault)) :
    ∃ lines, s.ensureOpen now checksum =
      ({ s₁ with disk := s₁.disk.putDatabase full db', connection := none }, lines,
        .error fault) := by
  have fresh : s.openFresh now checksum =
      ({ s₁ with disk := s₁.disk.putDatabase full db', connection := none }, .error fault) := by
    rw [openFresh, reached]
    simp only [database?, there, Option.getD_some, refused]
    rfl
  refine ⟨[.error ("❌ 打开本地存储失败: " ++ fault.message)], ?_⟩
  rw [ensureOpen, shut, fresh]
  rfl

/-- A shut store opens a file that can be prepared. -/
theorem ensureOpen_of_prepared (shut : s.isOpen = false)
    (reached : s.connect = (s₁, .ok (.file full))) {db db' : Database}
    (there : s₁.disk.database? full = some db) {now : Instant} {told : List LogLine}
    {checksum : Migration → UInt64} (prepared : db.prepare now checksum = (db', .ok told)) :
    ∃ lines, s.ensureOpen now checksum =
      ({ s₁ with disk := s₁.disk.putDatabase full db', connection := some (.file full) }, lines,
        .ok ()) := by
  obtain ⟨path, -, location, -, -⟩ := connect_cases reached
  have fresh : s.openFresh now checksum =
      ({ s₁ with disk := s₁.disk.putDatabase full db', connection := some (.file full) },
        .ok (told ++ [.info ("✅ 本地存储已打开: " ++ path)])) := by
    have kept : s₁.location = s.location := by
      rw [← (connect_kept s).2, reached]
    rw [openFresh, reached]
    simp only [database?, there, Option.getD_some, prepared, kept, location, setDatabase]
  refine ⟨told ++ [.info ("✅ 本地存储已打开: " ++ path)], ?_⟩
  rw [ensureOpen, shut, fresh]
  rfl

end Storage

end Outbox
