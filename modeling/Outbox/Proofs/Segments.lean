import Mathlib.Data.List.TakeWhile
import Mathlib.Data.String.Basic
import Mathlib.Tactic.IntervalCases
import Outbox.Proofs.ByteOrder
import Outbox.Proofs.Rows
import Outbox.Url.Parser

/-!
# Segments of a path

A segment that is added to a path is percent-encoded, and its encoding is read back as the bytes of
the text, with no slash in it. Three things come in between. Tabs and line ends are stripped first.
A text that is then one or two dots names no place below the path; no other text comes to that,
since the percent sign is encoded too. And a path that is a slash alone has no segment to keep, so
that a segment added below it stands right after that slash.

Every address that was read and that can have others below it has such a path: it is empty or starts
at the root, and for a local file with one slash only.
-/
namespace Outbox

theorem Text.bytes_inj {s t : String} (same : bytes s = bytes t) : s = t :=
  String.toByteArray_inj.mp (ByteArray.ext (Array.toList_inj.mp same))

namespace Url

/-! ## Percent-encoding is read back -/

theorem toList_loop (bs : ByteArray) (i : Nat) (read : List UInt8) :
    ByteArray.toList.loop bs i read = read.reverse ++ bs.data.toList.drop i := by
  fun_induction ByteArray.toList.loop with
  | case1 i read more ih =>
    have here : i < bs.data.toList.length := more
    have byte : bs.get! i = bs.data.toList[i] := getElem!_pos bs.data i more
    rw [ih, byte, List.reverse_cons, List.append_assoc, List.singleton_append,
      List.drop_eq_getElem_cons here]
  | case2 i read ended =>
    have past : bs.data.toList.length ≤ i := Nat.le_of_not_lt ended
    rw [List.drop_eq_nil_of_le past, List.append_nil]

theorem utf8_eq (c : Char) : utf8 c = String.utf8EncodeChar c := by
  have single := Text.bytes_eq c.toString
  rw [Text.bytes, Char.toString_eq_singleton, String.toList_singleton, List.flatMap_singleton]
    at single
  rw [utf8, ByteArray.toList, toList_loop]
  exact single

theorem utf8Bytes_toList (s : String) : utf8Bytes s.toList = Text.bytes s := by
  rw [utf8Bytes, Text.bytes_eq, funext utf8_eq]

theorem utf8Bytes_inj {cs ds : List Char} (same : utf8Bytes cs = utf8Bytes ds) : cs = ds := by
  have left := utf8Bytes_toList (String.ofList cs)
  have right := utf8Bytes_toList (String.ofList ds)
  rw [String.toList_ofList] at left right
  exact String.ofList_inj.mp (Text.bytes_inj (left.symm.trans (same.trans right)))

theorem hexValue?_upperHexDigit {n : Nat} (digit : n < 16) :
    Text.hexValue? (upperHexDigit n) = some n := by
  interval_cases n <;> decide

theorem decode_encodeByte (b : UInt8) (rest : List Char) :
    decode (encodeByte b ++ rest) = b :: decode rest := by
  have bound : b.toNat < 256 := b.toNat_lt
  have high := hexValue?_upperHexDigit (n := b.toNat / 16) (by omega)
  have low := hexValue?_upperHexDigit (n := b.toNat % 16) (by omega)
  simp only [encodeByte, List.cons_append, List.nil_append, decode, high, low, Nat.div_add_mod]
  rw [show b.toNat.toUInt8 = b from UInt8.ofNat_toNat]

theorem decode_encodeBytes (bytes : List UInt8) (rest : List Char) :
    decode (bytes.flatMap encodeByte ++ rest) = bytes ++ decode rest := by
  induction bytes with
  | nil => rfl
  | cons b bytes ih =>
    rw [List.flatMap_cons, List.append_assoc, decode_encodeByte, ih, List.cons_append]

theorem decode_cons {c : Char} (plain : c ≠ '%') (rest : List Char) :
    decode (c :: rest) = utf8 c ++ decode rest := by
  rw [decode]
  rintro a b tail rfl
  exact absurd rfl plain

theorem decode_encodeChar {set : EncodeSet} (percent : set '%' = true) (c : Char)
    (rest : List Char) : decode (encodeChar set c ++ rest) = utf8 c ++ decode rest := by
  unfold encodeChar
  split
  case isTrue kept =>
    refine decode_cons ?_ rest
    rintro rfl
    simp [percent] at kept
  case isFalse => exact decode_encodeBytes (utf8 c) rest

theorem decode_encode {set : EncodeSet} (percent : set '%' = true) (cs : List Char) :
    decode (encode set cs) = utf8Bytes cs := by
  induction cs with
  | nil => rfl
  | cons c cs ih =>
    rw [encode, List.flatMap_cons, ← encode, decode_encodeChar percent, ih, utf8Bytes, utf8Bytes,
      List.flatMap_cons]

theorem mem_encode {set : EncodeSet} {cs : List Char} {d : Char} (mem : d ∈ encode set cs)
    (sign : d ≠ '%') (noDigit : Text.hexValue? d = none) : d ∈ cs ∧ set d = false := by
  obtain ⟨c, here, mem⟩ := List.mem_flatMap.mp mem
  unfold encodeChar at mem
  split at mem
  case isTrue kept =>
    cases List.mem_singleton.mp mem
    simp only [Bool.and_eq_true, Bool.not_eq_true'] at kept
    exact ⟨here, kept.2⟩
  case isFalse =>
    obtain ⟨b, -, mem⟩ := List.mem_flatMap.mp mem
    have bound : b.toNat < 256 := b.toNat_lt
    simp only [encodeByte, List.mem_cons, List.not_mem_nil, or_false] at mem
    rcases mem with rfl | rfl | rfl
    · exact absurd rfl sign
    · rw [hexValue?_upperHexDigit (by omega)] at noDigit
      cases noDigit
    · rw [hexValue?_upperHexDigit (by omega)] at noDigit
      cases noDigit

/-- A lower-case character comes from itself or from the capital 32 places before it. -/
theorem toNat_of_toLower {c d : Char} (lower : c.toLower = d) :
    c = d ∨ (c.toNat + 32 = d.toNat ∧ 65 ≤ c.toNat ∧ c.toNat ≤ 90) := by
  subst lower
  unfold Char.toLower
  split
  case isTrue upper =>
    obtain ⟨low, high⟩ := upper
    rw [ge_iff_le, UInt32.le_iff_toNat_le] at low
    rw [UInt32.le_iff_toNat_le] at high
    have step : (c.val + ('a'.val - 'A'.val)).toNat = c.val.toNat + 32 := by
      rw [UInt32.toNat_add, show ('a'.val - 'A'.val).toNat = 32 from rfl]
      have : 'Z'.val.toNat = 90 := rfl
      omega
    exact .inr ⟨step.symm, low, high⟩
  case isFalse => exact .inl rfl

theorem eq_of_toLower_eq {c d : Char} (lower : c.toLower = d) (noLetter : d.toNat < 97) :
    c = d := by
  rcases toNat_of_toLower lower with same | ⟨shift, low, -⟩
  · exact same
  · omega

theorem eq_e_of_toLower_eq {c : Char} (lower : c.toLower = 'e') : c = 'e' ∨ c = 'E' := by
  rcases toNat_of_toLower lower with same | ⟨shift, -, -⟩
  · exact .inl same
  · refine .inr (Char.toNat_inj.mp ?_)
    have e : 'e'.toNat = 101 := rfl
    have capital : 'E'.toNat = 69 := rfl
    omega

/-- The two ways in which a dot is written in lower case. -/
def lowerDots : List (List Char) := [['.'], ['%', '2', 'e']]

/-- Whether a piece of a segment writes a dot, in either case. -/
def WritesDot (cs : List Char) : Prop := cs.map Char.toLower ∈ lowerDots

theorem WritesDot.decode {dot : List Char} (writes : WritesDot dot) (rest : List Char) :
    Url.decode (dot ++ rest) = 0x2e :: Url.decode rest := by
  rcases List.mem_pair.mp writes with plain | coded
  · obtain ⟨c, cs, rfl, dot, none⟩ := List.map_eq_cons_iff.mp plain
    cases eq_of_toLower_eq dot (by decide)
    cases List.map_eq_nil_iff.mp none
    rw [List.singleton_append, decode_cons (by decide), utf8_eq]
    rfl
  · obtain ⟨a, cs, rfl, sign, coded⟩ := List.map_eq_cons_iff.mp coded
    obtain ⟨b, cs, rfl, two, coded⟩ := List.map_eq_cons_iff.mp coded
    obtain ⟨c, cs, rfl, letter, none⟩ := List.map_eq_cons_iff.mp coded
    cases eq_of_toLower_eq sign (by decide)
    cases eq_of_toLower_eq two (by decide)
    cases List.map_eq_nil_iff.mp none
    rcases eq_e_of_toLower_eq letter with rfl | rfl <;> rfl

theorem decode_of_isSingleDot {segment : List Char} (dot : isSingleDot segment = true) :
    decode segment = utf8Bytes ['.'] := by
  have writes : WritesDot segment := by
    simp only [isSingleDot, List.contains_iff_mem, List.mem_pair] at dot
    exact List.mem_pair.mpr (dot.imp String.ofList_inj.mp String.ofList_inj.mp)
  have read := writes.decode []
  rw [List.append_nil] at read
  rw [read, utf8Bytes, List.flatMap_singleton, utf8_eq]
  rfl

theorem decode_of_isDoubleDot {segment : List Char} (dots : isDoubleDot segment = true) :
    decode segment = utf8Bytes ['.', '.'] := by
  obtain ⟨one, first, two, second, lower⟩ :
      ∃ one ∈ lowerDots, ∃ two ∈ lowerDots, segment.map Char.toLower = one ++ two := by
    simp only [isDoubleDot, List.contains_iff_mem, List.mem_cons, List.not_mem_nil,
      or_false] at dots
    rcases dots with dots | dots | dots | dots
    · exact ⟨['.'], by decide, ['.'], by decide, String.ofList_inj.mp dots⟩
    · exact ⟨['.'], by decide, ['%', '2', 'e'], by decide, String.ofList_inj.mp dots⟩
    · exact ⟨['%', '2', 'e'], by decide, ['.'], by decide, String.ofList_inj.mp dots⟩
    · exact ⟨['%', '2', 'e'], by decide, ['%', '2', 'e'], by decide, String.ofList_inj.mp dots⟩
  obtain ⟨xs, ys, rfl, rfl, rfl⟩ := List.map_eq_append_iff.mp lower
  have read := WritesDot.decode second []
  rw [List.append_nil] at read
  rw [WritesDot.decode first, read, utf8Bytes, List.flatMap_cons, List.flatMap_singleton, utf8_eq]
  rfl

/-! ## One segment further down -/

/-- The characters that a new segment encodes. -/
def newSegmentSet (kind : SchemeKind) : EncodeSet :=
  if kind.isSpecial then specialSegmentSet else segmentSet

theorem newSegmentSet_percent (kind : SchemeKind) : newSegmentSet kind '%' = true := by
  cases kind <;> decide

theorem newSegmentSet_slash (kind : SchemeKind) : newSegmentSet kind '/' = true := by
  cases kind <;> decide

theorem slash_not_mem_encode (kind : SchemeKind) (cs : List Char) :
    '/' ∉ encode (newSegmentSet kind) cs := by
  intro mem
  have free := (mem_encode mem (by decide) (by decide)).2
  rw [newSegmentSet_slash] at free
  cases free

/-- A path of segments: empty or from the root, and a local file's with one slash at the root. -/
structure Rooted (kind : SchemeKind) (path : List Char) : Prop where
  starts : path = [] ∨ path.head? = some '/'
  single : kind = .file → path.head? = some '/' ∧ path[1]? ≠ some '/'

/-- What stands before the slash of a segment that is added: the root has that slash already. -/
def stem (path : List Char) : List Char := if path.length = 1 then [] else path

theorem isNormalDrive_tail {path : List Char} (drive : isNormalDrive path.tail = true) :
    path.length = 3 ∧ path.getLast? = some ':' := by
  simp only [isNormalDrive, isDrive, Bool.and_eq_true, beq_iff_eq] at drive
  obtain ⟨⟨two, -⟩, colon⟩ := drive
  match path, two, colon with
  | [_, _, c], _, colon => exact ⟨rfl, colon⟩

/-- Where no drive letter can be met, a segment is encoded character by character. -/
theorem foldl_push {kind : SchemeKind} {set : EncodeSet} {start : List Char} (cs : List Char)
    {segment : List Char}
    (free : 3 < start.length ∨ (start.getLast? = some '/' ∧ ':' ∉ segment ∧ ':' ∉ cs)) :
    cs.foldl (fun s c => PathState.push s kind set c) ⟨start, segment, false⟩
      = ⟨start, segment ++ encode set cs, false⟩ := by
  induction cs generalizing segment with
  | nil => rw [List.foldl_nil, encode, List.flatMap_nil, List.append_nil]
  | cons c cs ih =>
    have noDrive : isNormalDrive (start ++ segment).tail = false := by
      refine Bool.eq_false_iff.mpr fun drive => ?_
      obtain ⟨three, colon⟩ := isNormalDrive_tail drive
      rw [List.length_append] at three
      rcases free with long | ⟨slash, noColon, -⟩
      · omega
      · rw [List.getLast?_append, slash] at colon
        cases last : segment.getLast? with
        | none => rw [last] at colon; cases colon
        | some d =>
          rw [last] at colon
          cases colon
          exact noColon (List.mem_of_getLast? last)
    have step : PathState.push ⟨start, segment, false⟩ kind set c
        = ⟨start, segment ++ encodeChar set c, false⟩ := by
      simp only [PathState.push, noDrive, Bool.and_false, Bool.false_eq_true, if_false]
    rw [List.foldl_cons, step, ih, encode, encode, List.flatMap_cons, List.append_assoc]
    refine free.imp_right fun ⟨slash, noColon, later⟩ =>
      ⟨slash, fun mem => ?_, List.not_mem_of_not_mem_cons later⟩
    rcases List.mem_append.mp mem with mem | mem
    · exact noColon mem
    · have coded : ':' ∈ encode set [c] := by rwa [encode, List.flatMap_singleton]
      obtain ⟨here, -⟩ := mem_encode coded (by decide) (by decide)
      exact later (List.mem_cons.mpr (.inl (List.mem_singleton.mp here)))

theorem closeSegment_plain {kind : SchemeKind} {before segment : List Char}
    (single : isSingleDot segment = false) (double : isDoubleDot segment = false)
    (noDrive : before.length ≠ 1 ∨ isDrive segment = false) :
    closeSegment kind before segment false = before ++ segment := by
  have kept : (kind == .file && before.length == 1 && isDrive segment) = false := by
    rcases noDrive with far | no
    · rw [beq_eq_false_iff_ne.mpr far, Bool.and_false, Bool.false_and]
    · rw [no, Bool.and_false]
  simp only [closeSegment, single, double, kept, Bool.false_eq_true, if_false, List.append_nil]

theorem path_of_rooted {kind : SchemeKind} {s : PathState} (rooted : Rooted kind s.done) :
    s.path kind = s.done := by
  unfold PathState.path
  split
  case isTrue file =>
    obtain ⟨head, next⟩ := rooted.single (beq_iff_eq.mp file)
    match path : s.done, head, next with
    | [_], rfl, _ => rfl
    | _ :: b :: rest, rfl, next =>
      have other : (b == '/') = false :=
        beq_eq_false_iff_ne.mpr fun same => next (congrArg some same)
      rw [List.dropWhile_cons_of_pos rfl, List.dropWhile_cons_of_neg (by simp [other])]
  case isFalse => rfl

theorem Rooted.below {kind : SchemeKind} {path : List Char} (rooted : Rooted kind path)
    {segment : List Char} (noSlash : '/' ∉ segment) :
    Rooted kind (stem path ++ '/' :: segment) := by
  have next : ('/' :: segment)[1]? ≠ some '/' := by
    rw [List.getElem?_cons_succ]
    exact fun here => noSlash (List.mem_of_getElem? here)
  unfold stem
  split
  case isTrue => exact ⟨.inr rfl, fun _ => ⟨rfl, next⟩⟩
  case isFalse several =>
    match path, rooted, several with
    | [], _, _ => exact ⟨.inr rfl, fun _ => ⟨rfl, next⟩⟩
    | a :: b :: rest, rooted, _ =>
      exact ⟨.inr (rooted.starts.resolve_left (List.cons_ne_nil _ _)), rooted.single⟩

theorem opened_eq {kind : SchemeKind} {path : List Char} (rooted : Rooted kind path) :
    (if path.length = 1 then path else path ++ ['/']) = stem path ++ ['/'] := by
  unfold stem
  split
  case isTrue one =>
    obtain ⟨c, rfl⟩ := List.length_eq_one_iff.mp one
    rcases rooted.starts with none | head
    · cases none
    · cases head
      rfl
  case isFalse => rfl

/-- The characters of a text that a segment keeps. -/
def unstripped (cs : List Char) : List Char := cs.filter fun c => !isStripped c

theorem pushSegment_eq {kind : SchemeKind} {path segment : List Char} (rooted : Rooted kind path)
    (named : segment ≠ ['.'] ∧ segment ≠ ['.', '.'])
    (free : 2 < (stem path).length ∨ ':' ∉ segment) :
    pushSegment kind path segment
      = PathState.path ⟨closeSegment kind (stem path ++ ['/'])
          (encode (newSegmentSet kind) (unstripped segment)) false, [], (PathState.close
          ⟨stem path ++ ['/'], encode (newSegmentSet kind) (unstripped segment), false⟩ kind
          false).drive⟩ kind := by
  have free : 3 < (stem path ++ ['/']).length ∨ ((stem path ++ ['/']).getLast? = some '/' ∧
      ':' ∉ ([] : List Char) ∧ ':' ∉ unstripped segment) := by
    rw [List.length_append, List.length_singleton]
    refine free.imp (by omega) fun noColon =>
      ⟨List.getLast?_concat, List.not_mem_nil, fun mem => ?_⟩
    exact noColon (List.mem_of_mem_filter mem)
  rw [pushSegment, if_neg (not_or.mpr named)]
  simp only [opened_eq rooted, PathState.start]
  rw [← unstripped, ← newSegmentSet, foldl_push _ free, List.nil_append]
  rfl

/-- A new segment that is no dot segment stands at the end of the path. -/
theorem pushSegment_plain {kind : SchemeKind} {path segment : List Char} (rooted : Rooted kind path)
    (single : unstripped segment ≠ ['.']) (double : unstripped segment ≠ ['.', '.'])
    (free : 2 < (stem path).length ∨
      (':' ∉ segment ∧ isDrive (encode (newSegmentSet kind) (unstripped segment)) = false)) :
    pushSegment kind path segment
      = stem path ++ '/' :: encode (newSegmentSet kind) (unstripped segment) := by
  have named : segment ≠ ['.'] ∧ segment ≠ ['.', '.'] := by
    constructor <;> rintro rfl
    · exact single rfl
    · exact double rfl
  have noSingle : isSingleDot (encode (newSegmentSet kind) (unstripped segment)) = false := by
    refine Bool.eq_false_iff.mpr fun dot => single (utf8Bytes_inj ?_)
    rw [← decode_encode (newSegmentSet_percent kind), decode_of_isSingleDot dot]
  have noDouble : isDoubleDot (encode (newSegmentSet kind) (unstripped segment)) = false := by
    refine Bool.eq_false_iff.mpr fun dots => double (utf8Bytes_inj ?_)
    rw [← decode_encode (newSegmentSet_percent kind), decode_of_isDoubleDot dots]
  have noDrive : (stem path ++ ['/']).length ≠ 1 ∨
      isDrive (encode (newSegmentSet kind) (unstripped segment)) = false := by
    rw [List.length_append, List.length_singleton]
    exact free.imp (by omega) And.right
  rw [pushSegment_eq rooted named (free.imp_right And.left),
    closeSegment_plain noSingle noDouble noDrive, List.append_assoc, List.singleton_append]
  exact path_of_rooted (rooted.below (slash_not_mem_encode kind _))

theorem dropEmptyEnd_rooted {kind : SchemeKind} {path : List Char} (rooted : Rooted kind path) :
    Rooted kind (dropEmptyEnd path) := by
  unfold dropEmptyEnd
  split
  case isFalse => exact rooted
  case isTrue ends =>
    match path, rooted, ends with
    | [a, b], rooted, _ =>
      have head := rooted.starts.resolve_left (List.cons_ne_nil _ _)
      exact ⟨.inr head, fun _ => ⟨head, by simp⟩⟩
    | a :: b :: c :: rest, rooted, _ =>
      exact ⟨.inr (rooted.starts.resolve_left (List.cons_ne_nil _ _)), rooted.single⟩

/-- The path without an empty segment at its end. -/
def trimmed (path : List Char) : List Char :=
  if path.getLast? = some '/' then path.dropLast else path

/-- Below any path but the one of two slashes, the new segment comes after the trimmed path. -/
theorem stem_dropEmptyEnd {kind : SchemeKind} {path : List Char} (rooted : Rooted kind path)
    (filled : path ≠ ['/', '/']) : stem (dropEmptyEnd path) = trimmed path := by
  match path, rooted, filled with
  | [], _, _ => rfl
  | [a], rooted, _ =>
    cases rooted.starts.resolve_left (List.cons_ne_nil _ _)
    rfl
  | [a, b], rooted, filled =>
    cases rooted.starts.resolve_left (List.cons_ne_nil _ _)
    have other : b ≠ '/' := fun same => filled (by rw [same])
    simp [dropEmptyEnd, trimmed, stem, other]
  | a :: b :: c :: rest, _, _ =>
    have same : dropEmptyEnd (a :: b :: c :: rest) = trimmed (a :: b :: c :: rest) := by
      simp [dropEmptyEnd, trimmed]
    have several : (trimmed (a :: b :: c :: rest)).length ≠ 1 := by
      unfold trimmed
      split <;> simp
    rw [same, stem, if_neg several]

/-! ## The paths of addresses that were read -/

theorem upToLastSlash_begins (path : List Char) : upToLastSlash path <+: path := by
  have suffix : path.reverse.dropWhile (· ≠ '/') <:+ path.reverse := List.dropWhile_suffix _
  have part := List.reverse_prefix.mpr suffix
  rwa [List.reverse_reverse] at part

theorem upToLastSlash_ne_nil {path : List Char} (slash : '/' ∈ path) : upToLastSlash path ≠ [] := by
  intro none
  have all := List.dropWhile_eq_nil_iff.mp (List.reverse_eq_nil_iff.mp none)
  simpa using all '/' (List.mem_reverse.mpr slash)

theorem head?_of_begins {xs ys : List Char} (part : xs <+: ys) (filled : xs ≠ []) :
    xs.head? = ys.head? := by
  obtain ⟨rest, rfl⟩ := part
  rw [List.head?_append_of_ne_nil _ filled]

theorem shorten_starts {kind : SchemeKind} {path : List Char} (head : path.head? = some '/') :
    (shorten kind path).head? = some '/' := by
  have slash : '/' ∈ path := List.mem_of_mem_head? head
  unfold shorten
  split_ifs
  · exact head
  · exact head
  · exact head
  · rw [head?_of_begins (upToLastSlash_begins path) (upToLastSlash_ne_nil slash), head]

theorem head?_append_starts {path : List Char} (head : path.head? = some '/') (rest : List Char) :
    (path ++ rest).head? = some '/' := by
  rw [List.head?_append, head, Option.some_or]

theorem closeSegment_starts {kind : SchemeKind} {before segment : List Char} {slash : Bool}
    (head : before.head? = some '/') :
    (closeSegment kind before segment slash).head? = some '/' := by
  have shorter (drop : (before.getLast? == some '/' && lastSlashCanGo before) = true) :
      before.dropLast.head? = some '/' := by
    have above : '/' ∈ before.dropLast := by
      simp only [lastSlashCanGo, Bool.and_eq_true, List.contains_iff_mem] at drop
      exact drop.2.1
    have begins : before.dropLast <+: before := List.dropLast_prefix before
    rw [head?_of_begins begins (List.ne_nil_of_mem above), head]
  have above : (shorten kind (if before.getLast? == some '/' && lastSlashCanGo before
      then before.dropLast else before)).head? = some '/' := by
    refine shorten_starts ?_
    split
    case isTrue drop => exact shorter drop
    case isFalse => exact head
  simp only [closeSegment]
  split
  case isTrue =>
    generalize shorten kind _ = up at above ⊢
    split
    · exact head?_append_starts above _
    · exact above
  case isFalse =>
    split
    case isTrue =>
      split
      · exact head
      · exact head?_append_starts head _
    case isFalse => exact head?_append_starts (head?_append_starts head _) _

theorem push_done {kind : SchemeKind} (elsewhere : kind ≠ .file) (s : PathState) (set : EncodeSet)
    (c : Char) : (s.push kind set c).done = s.done := by
  rw [PathState.push]
  simp only [beq_eq_false_iff_ne.mpr elsewhere, Bool.false_and, Bool.false_eq_true, if_false]

/-- Reading on from the root never leaves it. -/
theorem readPathFrom_starts {kind : SchemeKind} (elsewhere : kind ≠ .file) {s : PathState}
    (cs : List Char) (head : s.done.head? = some '/') :
    (readPathFrom kind s cs).1.done.head? = some '/' := by
  induction cs generalizing s with
  | nil => exact closeSegment_starts head
  | cons c rest ih =>
    rw [readPathFrom]
    split_ifs
    · exact ih (closeSegment_starts head)
    · exact closeSegment_starts head
    · exact ih (by rwa [push_done elsewhere])

theorem readRootPath_starts {kind : SchemeKind} (elsewhere : kind ≠ .file) (cs : List Char) :
    (readRootPath kind cs).1.done = [] ∨ (readRootPath kind cs).1.done.head? = some '/' := by
  have root (rest : List Char) : (readPath kind ['/'] rest).1.done.head? = some '/' :=
    readPathFrom_starts elsewhere rest rfl
  unfold readRootPath
  split
  case isTrue =>
    split
    · split
      · exact .inr (root _)
      · exact .inr (root _)
    · exact .inr (root _)
  case isFalse plain =>
    split
    case h_1 =>
      exact .inl (by cases kind <;> decide)
    case h_2 c rest =>
      split_ifs with ends slash
      · exact .inl rfl
      · subst slash
        rw [readPath, readPathFrom, if_pos (.inl rfl)]
        exact .inr (readPathFrom_starts elsewhere rest (by cases kind <;> decide))
      · exact .inr (root _)

theorem assemble_rooted {scheme : List Char} {authority : Option Authority}
    {path : PathState × List Char}
    (starts : SchemeKind.ofScheme scheme ≠ .file →
      path.1.done = [] ∨ path.1.done.head? = some '/') :
    Rooted (assemble scheme authority path).kind (assemble scheme authority path).path := by
  show Rooted (.ofScheme scheme) (path.1.path (.ofScheme scheme))
  by_cases file : SchemeKind.ofScheme scheme = .file
  · have next : (path.1.done.dropWhile (· == '/')).head? ≠ some '/' := fun here => by
      have stopped := List.head?_dropWhile_not (· == '/') path.1.done
      rw [here] at stopped
      simp at stopped
    rw [PathState.path, if_pos (beq_iff_eq.mpr file)]
    refine ⟨.inr rfl, fun _ => ⟨rfl, ?_⟩⟩
    rwa [List.getElem?_cons_succ, ← List.head?_eq_getElem?]
  · rw [PathState.path, if_neg (mt beq_iff_eq.mp file)]
    exact ⟨starts file, fun here => absurd here file⟩

theorem parseAuthority_rooted {scheme cs : List Char} {u : Url}
    (read : parseAuthority scheme (.ofScheme scheme) cs = .ok u)
    (elsewhere : SchemeKind.ofScheme scheme ≠ .file) : Rooted u.kind u.path := by
  unfold parseAuthority at read
  obtain ⟨⟨⟨username, password⟩, afterUser⟩, -, read⟩ := Except.bind_eq_ok read
  obtain ⟨⟨⟨host, port⟩, afterHost⟩, -, read⟩ := Except.bind_eq_ok read
  dsimp only at read
  split at read
  · cases read
  · cases read
    exact assemble_rooted fun _ => readRootPath_starts elsewhere afterHost

theorem parseFile_rooted {scheme cs : List Char} {u : Url}
    (file : SchemeKind.ofScheme scheme = .file) (read : parseFile scheme cs = .ok u) :
    Rooted u.kind u.path := by
  have local_ (authority : Option Authority) (path : PathState × List Char) :
      Rooted (assemble scheme authority path).kind (assemble scheme authority path).path :=
    assemble_rooted fun elsewhere => absurd file elsewhere
  unfold parseFile at read
  dsimp only at read
  split at read
  · split at read
    · unfold parseFileHost at read
      dsimp only at read
      split at read
      · cases read
        exact local_ _ _
      · split at read
        · cases read
          exact local_ _ _
        · obtain ⟨host, -, read⟩ := Except.bind_eq_ok read
          split at read
          · cases read
            exact local_ _ _
          · cases read
            exact local_ _ _
    · cases read
      exact local_ _ _
  · cases read
    exact local_ _ _

/-- Every address below which others can be formed has a path of segments. -/
theorem parse_rooted {s : String} {u : Url} (read : parse s = .ok u) (base : u.canBeBase = true) :
    Rooted u.kind u.path := by
  unfold parse at read
  split at read
  case h_1 => cases read
  case h_2 scheme cs _ =>
    split at read
    case h_1 file => exact parseFile_rooted file read
    case h_2 web =>
      rw [← web] at read
      exact parseAuthority_rooted read (by rw [web]; decide)
    case h_3 other =>
      have elsewhere : SchemeKind.ofScheme scheme ≠ .file := by rw [other]; decide
      split at read
      case h_1 =>
        rw [← other] at read
        exact parseAuthority_rooted read elsewhere
      case h_2 =>
        cases read
        exact assemble_rooted fun _ => .inr (readPathFrom_starts (by decide) _ rfl)
      case h_3 =>
        cases read
        refine assemble_rooted fun _ => .inr ?_
        simp only [canBeBase, assemble, Option.isSome_none, Bool.false_or, beq_iff_eq] at base
        rwa [PathState.path, if_neg (mt beq_iff_eq.mp elsewhere)] at base

theorem shorten_length_le (kind : SchemeKind) (path : List Char) :
    (shorten kind path).length ≤ path.length := by
  unfold shorten
  split_ifs
  · exact le_rfl
  · exact le_rfl
  · exact le_rfl
  · exact (upToLastSlash_begins path).length_le

theorem closeSegment_dots_length_le {kind : SchemeKind} {before segment : List Char}
    (ends : before.getLast? = some '/')
    (dots : isSingleDot segment = true ∨ isDoubleDot segment = true) :
    (closeSegment kind before segment false).length ≤ before.length := by
  simp only [closeSegment, Bool.false_and, Bool.false_eq_true, if_false, ends, BEq.rfl, if_true]
  split
  case isTrue =>
    refine (shorten_length_le kind _).trans ?_
    split
    · rw [List.length_dropLast]
      exact Nat.sub_le _ _
    · exact le_rfl
  case isFalse noDouble => rw [if_pos (dots.resolve_right noDouble)]

theorem path_length_le {kind : SchemeKind} {s : PathState} (head : s.done.head? = some '/') :
    (s.path kind).length ≤ s.done.length := by
  unfold PathState.path
  split
  case isTrue =>
    obtain ⟨rest, done⟩ : ∃ rest, s.done = '/' :: rest := List.head?_eq_some_iff.mp head
    rw [done, List.dropWhile_cons_of_pos rfl, List.length_cons, List.length_cons]
    exact Nat.succ_le_succ (List.dropWhile_suffix _).length_le
  case isFalse => exact le_rfl

/-- A segment that comes to one or two dots names no place below the path. -/
theorem pushSegment_dots_length_le {kind : SchemeKind} {path segment : List Char}
    (rooted : Rooted kind path) (several : 2 < path.length)
    (dots : unstripped segment = ['.'] ∨ unstripped segment = ['.', '.']) :
    (pushSegment kind path segment).length ≤ path.length + 1 := by
  have own : stem path = path := if_neg (by omega)
  by_cases named : segment = ['.'] ∨ segment = ['.', '.']
  · rw [pushSegment, if_pos named]
    exact Nat.le_succ _
  · rw [pushSegment_eq rooted (not_or.mp named) (.inl (by rwa [own])), own]
    have coded : isSingleDot (encode (newSegmentSet kind) (unstripped segment)) = true ∨
        isDoubleDot (encode (newSegmentSet kind) (unstripped segment)) = true := by
      rcases dots with one | two
      · rw [one]
        exact .inl (by cases kind <;> decide)
      · rw [two]
        exact .inr (by cases kind <;> decide)
    have ends : (path ++ ['/']).getLast? = some '/' := List.getLast?_concat
    have head : (path ++ ['/']).head? = some '/' :=
      head?_append_starts (rooted.starts.resolve_left (List.ne_nil_of_length_pos (by omega))) _
    refine (path_length_le (closeSegment_starts head)).trans ?_
    refine (closeSegment_dots_length_le ends coded).trans ?_
    rw [List.length_append, List.length_singleton]

/-- The address with another path. -/
def withPath (u : Url) (path : List Char) : Url := { u with path := path }

theorem path_eq_of_text_eq {u : Url} {p q : List Char}
    (doubled : p.take 2 = ['/', '/'] ↔ q.take 2 = ['/', '/'])
    (same : (u.withPath p).text = (u.withPath q).text) : p = q := by
  have written := String.ofList_inj.mp same
  have mark : (p.take 2 == ['/', '/']) = (q.take 2 == ['/', '/']) :=
    Bool.eq_iff_iff.mpr (by rwa [beq_iff_eq, beq_iff_eq])
  simp only [withPath, render, mark, List.append_assoc, List.cons_append] at written
  have tails := (List.cons.injEq ..).mp (List.append_cancel_left written)
  exact List.append_cancel_right (List.append_cancel_left tails.2)

end Url

end Outbox
