import Outbox.Forms
import Outbox.Proofs.DateText
import Outbox.Proofs.JsonText

/-!
# Forms that are read as they were written

A reader takes the text of a value for that value, as long as enough levels of nesting are left.
This is shown for each way to build a form: texts, numbers, dates, names, what may be missing,
lists, records and variants. A record is read by the names of its fields, in whatever order they
come; each of them is met once, and what is read of it overwrites the draft.
-/
namespace Outbox.Json

/-- With more than `k` levels left a reader gives a value for a part. -/
def Takes {α : Type} (reader : Reader α) (k : Nat) (part : List Char) (x : α) : Prop :=
  ∀ depth, k < depth → ∀ rest, Ends rest → reader depth (part ++ rest) = .ok (x, rest)

variable {α β : Type} {reader : Reader α} {k : Nat} {part : List Char} {x : α}

theorem Takes.mono (takes : Takes reader k part x) {k' : Nat} (le : k ≤ k') :
    Takes reader k' part x :=
  fun depth deep => takes depth (le.trans_lt deep)

theorem Takes.mapRead (takes : Takes reader k part x) (f : α → β) :
    Takes (mapRead f reader) k part (f x) := by
  intro depth deep rest ends
  rw [Json.mapRead, takes depth deep rest ends]
  rfl

/-! ## Texts, numbers and values -/

/-- A text ends with its quote, so anything may stand behind it. -/
theorem readTextAs_renderString (expected s : String) (depth : Nat) (rest : List Char) :
    readTextAs expected depth (renderString s ++ rest) = .ok (s, rest) := by
  rw [renderString_append]
  change readString _ = _
  rw [readString_escaped]

theorem takes_readTextAs (expected s : String) (k : Nat) :
    Takes (readTextAs expected) k (renderString s) s :=
  fun depth _ rest _ => readTextAs_renderString expected s depth rest

theorem takes_readNat {n limit : Nat} (small : n < limit) (size : limit ≤ UInt64.size)
    (expected : String) (k : Nat) : Takes (readNat limit expected) k (Nat.toDigits 10 n) n := by
  intro depth _ rest ends
  obtain ⟨c, cs, digits, digit⟩ := toDigits_starts n
  have read := readNumeral_nat ⟨n, small.trans_le size⟩ ends
  rw [digits, List.cons_append] at read ⊢
  -- A digit is neither a blank nor a sign.
  have unsigned : c ≠ '-' := by
    rintro rfl
    cases digit
  have some : (digit? c).isSome = true := by rw [isSome_digit?, digit]
  rw [readNat, skipBlanks_cons (isBlank_of_isDigit digit)]
  simp only [if_neg unsigned, some, if_true, read, bind, Except.bind, small]
  rfl

theorem takes_readValue {v : Json} (plain : v.IsPlain) : Takes readValue v.depth v.render v := by
  intro depth deep rest ends
  obtain ⟨k, rfl⟩ := Nat.exists_eq_add_of_lt deep
  obtain ⟨w, same, read⟩ := (readValue_render (v.depth + k) v rest ends).1 (Nat.le_add_right _ _)
  rw [read, same plain]

/-! ## What may be missing, and lists -/

theorem takes_readOption_none (reader : Reader α) (k : Nat) :
    Takes (readOption reader) k "null".toList none := by
  intro depth _ rest _
  rfl

/-- What is there is told from `null` by its first letter. -/
theorem Takes.readOption (takes : Takes reader k part x)
    (starts : ∃ c cs, part = c :: cs ∧ isBlank c = false ∧ c ≠ 'n') :
    Takes (readOption reader) k part (some x) := by
  intro depth deep rest ends
  have read := takes depth deep rest ends
  obtain ⟨c, cs, rfl, solid, other⟩ := starts
  rw [List.cons_append] at read ⊢
  rw [Json.readOption, skipBlanks_cons solid]
  split
  next same => exact absurd (List.cons.inj same).1 other
  · rw [read]
    rfl

/-- Where brackets may be opened, two levels are left. -/
theorem exists_inner {depth : Nat} (deep : k + 1 < depth) :
    ∃ level, depth = level + 2 ∧ k < level + 1 := by
  obtain ⟨level, rfl⟩ := Nat.exists_eq_add_of_lt deep
  exact ⟨k + level, by omega, by omega⟩

theorem takes_readList {text : α → List Char} {xs : List α} (opens : ∀ x ∈ xs, Opens (text x))
    (each : ∀ x ∈ xs, Takes reader k (text x) x) :
    Takes (readList reader) (k + 1) ('[' :: (joinWith [','] (xs.map text) ++ [']'])) xs := by
  intro depth deep rest ends
  obtain ⟨level, rfl, inner⟩ := exists_inner deep
  have enough := length_lt_joined (xs.map text) ']' rest
  rw [List.length_map] at enough
  have element (x : α) (member : x ∈ xs) : Fares (reader (level + 1)) (x = ·) True (text x) := by
    intro rest ends
    exact ⟨fun _ => ⟨x, rfl, each x member _ inner rest ends⟩, fun none => absurd trivial none⟩
  obtain ⟨ys, same, read⟩ := (readElements_joined opens element enough rest).1 fun _ _ => trivial
  rw [List.forall₂_eq_eq_eq] at same
  subst same
  rw [List.cons_append, List.append_assoc, List.singleton_append]
  change (readElements (reader (level + 1)) _ true _ >>= _) = _
  rw [read]
  rfl

/-! ## Records -/

/-- Parts that are written for the fields of a record, in order, and what they make of a draft. -/
inductive Written (k : Nat) :
    List (Member α) → List (String × List Char) → α → α → Prop
  | nil (x : α) : Written k [] [] x x
  | cons {f : Member α} {fields : List (Member α)} {part : List Char}
      {parts : List (String × List Char)} {set : α → α} {x y : α}
      (first : Takes f.read k part set) (rest : Written k fields parts (set x) y) :
      Written k (f :: fields) ((f.name, part) :: parts) x y

theorem Takes.required (takes : Takes reader k part x) (name : String) (set : α → β → β) :
    Takes (Member.required name reader set).read k part (set x) :=
  takes.mapRead set

theorem Takes.optionally {o : Option α} (takes : Takes (Json.readOption reader) k part o)
    (name : String) (set : Option α → β → β) :
    Takes (Member.optionally name reader set).read k part (set o) :=
  takes.mapRead set

theorem Written.length_eq {fields : List (Member α)} {parts : List (String × List Char)} {x y : α}
    (written : Written k fields parts x y) : fields.length = parts.length := by
  induction written with
  | nil => rfl
  | cons first rest ih => rw [List.length_cons, List.length_cons, ih]

namespace Shape

variable {s : Shape α}

theorem memberText_id (name : String) (part : List Char) :
    memberText id (name, part) = renderString name ++ ':' :: part := rfl

/-- One member of a record: its field is found by its key, and was not met before. -/
theorem readByName_step {depth : Nat} {f : Member α} {set : α → α} {cs tail : List Char}
    {first : Bool} {seen : List String}
    (next : nextKey first cs = .ok (true, f.name.toList.flatMap escapeChar ++ '"' :: ':' :: part))
    (found : s.fields.find? (·.name == f.name) = some f) (new : f.name ∉ seen)
    (read : f.read depth part = .ok (set, tail)) (fuel : Nat) (x : α) :
    s.readByName depth (fuel + 1) first seen x cs =
      s.readByName depth fuel false (f.name :: seen) (set x) tail := by
  have unmet : seen.contains f.name = false := by simpa using new
  rw [readByName, next]
  simp only [bind, Except.bind, if_true, readString_escaped, found, unmet, Bool.false_eq_true,
    if_false]
  change (f.read depth part >>= _) = _
  rw [read]
  rfl

/-- The fields of which none was met before, each named once, are read one after the other. -/
theorem readByName_tail {depth : Nat} (deep : k < depth) {fields : List (Member α)}
    {parts : List (String × List Char)} {x y : α} (written : Written k fields parts x y)
    (found : ∀ f ∈ fields, s.fields.find? (·.name == f.name) = some f) {seen : List String}
    (new : ∀ f ∈ fields, f.name ∉ seen) (distinct : (fields.map (·.name)).Nodup) {fuel : Nat}
    (enough : fields.length < fuel) (rest : List Char) :
    s.readByName depth fuel false seen x
        ((parts.map (memberText id)).flatMap (',' :: ·) ++ closeBrace :: rest) =
      .ok (((fields.map (·.name)).reverse ++ seen, y), closeBrace :: rest) := by
  induction written generalizing seen fuel with
  | nil x =>
    obtain ⟨fuel, rfl⟩ := Nat.exists_eq_add_of_lt enough
    simp only [List.length_nil, Nat.zero_add, readByName]
    rfl
  | @cons f fields part parts set x y first written ih =>
    -- The field is read up to the next comma or brace; after that its name is taken as well.
    obtain ⟨left, rfl⟩ : ∃ left, fuel = left + 1 := ⟨fuel - 1, by omega⟩
    obtain ⟨other, distinct⟩ := List.nodup_cons.mp distinct
    have read := first depth deep _ (ends_tail (parts.map (memberText id)) (.inr rfl) rest)
    have later : ∀ g ∈ fields, g.name ∉ f.name :: seen := by
      intro g member met
      rcases List.mem_cons.mp met with same | before
      · exact other (List.mem_map.mpr ⟨g, member, same⟩)
      · exact new g (List.mem_cons_of_mem _ member) before
    rw [List.length_cons] at enough
    rw [List.map_cons, List.flatMap_cons, List.cons_append, List.cons_append, List.append_assoc,
      memberText_id, List.append_assoc, List.cons_append,
      readByName_step (nextKey_comma f.name _) (found f List.mem_cons_self)
        (new f List.mem_cons_self) read,
      ih (fun g member => found g (List.mem_cons_of_mem _ member)) later distinct (by omega)]
    simp

/-- The fields of a record are read one after the other, up to its closing brace. -/
theorem readByName_joined {depth : Nat} (deep : k < depth) {fields : List (Member α)}
    {parts : List (String × List Char)} {x y : α} (written : Written k fields parts x y)
    (found : ∀ f ∈ fields, s.fields.find? (·.name == f.name) = some f)
    (distinct : (fields.map (·.name)).Nodup) {fuel : Nat} (enough : fields.length < fuel)
    (rest : List Char) :
    s.readByName depth fuel true [] x
        (joinWith [','] (parts.map (memberText id)) ++ closeBrace :: rest) =
      .ok (((fields.map (·.name)).reverse, y), closeBrace :: rest) := by
  obtain ⟨left, rfl⟩ : ∃ left, fuel = left + 1 := ⟨fuel - 1, by omega⟩
  cases written with
  | nil => rfl
  | @cons f fields part parts set _ _ first written =>
    obtain ⟨other, distinct⟩ := List.nodup_cons.mp distinct
    have read := first depth deep _ (ends_tail (parts.map (memberText id)) (.inr rfl) rest)
    have later : ∀ g ∈ fields, g.name ∉ [f.name] := by
      intro g member met
      exact other (List.mem_map.mpr ⟨g, member, List.mem_singleton.mp met⟩)
    rw [List.length_cons] at enough
    rw [List.map_cons, joinWith_cons, List.append_assoc, memberText_id, List.append_assoc,
      List.cons_append, readByName_step (nextKey_first f.name _) (found f List.mem_cons_self)
        List.not_mem_nil read,
      readByName_tail deep written (fun g member => found g (List.mem_cons_of_mem _ member)) later
        distinct (by omega)]
    simp

/-- A field is found under its name. -/
theorem find?_name (distinct : (s.fields.map (·.name)).Nodup) {f : Member α}
    (member : f ∈ s.fields) : s.fields.find? (·.name == f.name) = some f := by
  cases found : s.fields.find? (·.name == f.name) with
  | none => simpa using List.find?_eq_none.mp found f member
  | some g =>
    have name : g.name = f.name := by simpa using List.find?_some found
    rw [List.inj_on_of_nodup_map distinct (List.mem_of_find?_eq_some found) member name]

theorem read_object (level : Nat) (cs : List Char) :
    s.read (level + 2) (openBrace :: cs) = (do
      let ((seen, x), cs) ← s.readByName (level + 1) (cs.length + 1) true [] s.draft cs
      match s.missing? seen with
      | some name => .error (.missingField name)
      | none =>
        let cs ← endObject cs
        pure (x, cs)) := rfl

/-- A record is read from its fields. -/
theorem takes {parts : List (String × List Char)} {x : α}
    (written : Written k s.fields parts s.draft x) (distinct : (s.fields.map (·.name)).Nodup) :
    Takes s.read (k + 1) (renderRecord parts) x := by
  intro depth deep rest ends
  obtain ⟨level, rfl, inner⟩ := exists_inner deep
  have enough := length_lt_joined (parts.map (memberText id)) closeBrace rest
  rw [List.length_map, ← written.length_eq] at enough
  have members :=
    readByName_joined inner written (fun f => find?_name distinct) distinct enough rest
  -- Every field was met, so none is reported as missing.
  have complete : s.missing? (s.fields.map (·.name)).reverse = none := by
    rw [missing?, Option.map_eq_none_iff, List.find?_eq_none]
    intro f member
    have met : f.name ∈ (s.fields.map (·.name)).reverse :=
      List.mem_reverse.mpr (List.mem_map_of_mem member)
    simp [met]
  have text : renderRecord parts ++ rest =
      openBrace :: (joinWith [','] (parts.map (memberText id)) ++ closeBrace :: rest) := by
    change openBrace :: (joinWith [','] (parts.map (memberText id)) ++ [closeBrace]) ++ rest = _
    rw [List.cons_append, List.append_assoc, List.singleton_append]
  rw [text, read_object, members]
  simp only [bind, Except.bind, complete]
  rfl

end Shape

/-! ## Variants -/

variable {variants : List (Variant α)} {name : String}

/-- A variant without content is read from its name. -/
theorem takes_readVariant_unit (found : variantNamed variants name = .ok (.unit x)) (k : Nat) :
    Takes (readVariant variants) k (renderString name) x := by
  intro depth _ rest _
  rw [renderString_append, readVariant, skipBlanks_cons (by decide)]
  simp only [if_true, readString_escaped, bind, Except.bind, found]
  rfl

theorem readVariant_object (level : Nat) (cs : List Char) :
    readVariant variants (level + 2) (openBrace :: cs) = (do
      let (name, cs) ← readTextAs "variant identifier" (level + 1) cs
      let body ← variantNamed variants name
      let cs ← readColon cs
      let (x, cs) ← match body with
        | .unit x => mapRead (fun _ => x) readUnit (level + 1) cs
        | .single read => read (level + 1) cs
        | .fields read => read (level + 1) cs
      match skipBlanks cs with
      | [] => .error .endInObject
      | c :: rest => if c = closeBrace then pure (x, rest) else .error .expectedValue) := rfl

/-- A variant with content is read from an object with one member. -/
theorem takes_readVariant_tagged {body : VariantBody α} (takes : Takes reader k part x)
    (found : variantNamed variants name = .ok body)
    (content : body = .single reader ∨ body = .fields reader) :
    Takes (readVariant variants) (k + 1) (renderRecord [(name, part)]) x := by
  intro depth deep rest ends
  obtain ⟨level, rfl, inner⟩ := exists_inner deep
  have closes : Ends (closeBrace :: rest) := ends_tail [] (.inr rfl) rest
  have text : renderRecord [(name, part)] ++ rest =
      openBrace :: (renderString name ++ ':' :: (part ++ closeBrace :: rest)) := by
    change openBrace :: ((renderString name ++ ':' :: part) ++ [closeBrace]) ++ rest = _
    simp
  have key := readTextAs_renderString "variant identifier" name (level + 1)
    (':' :: (part ++ closeBrace :: rest))
  have read := takes (level + 1) inner _ closes
  rw [text, readVariant_object, key]
  -- One value and several fields are read in the same way here; they differ behind a bare name.
  rcases content with rfl | rfl
  · simp only [bind, Except.bind, found]
    change (reader (level + 1) (part ++ closeBrace :: rest) >>= _) = _
    rw [read]
    rfl
  · simp only [bind, Except.bind, found]
    change (reader (level + 1) (part ++ closeBrace :: rest) >>= _) = _
    rw [read]
    rfl

end Outbox.Json

namespace Outbox.Form

open Json Time

/-! ## Bytes -/

theorem takes_byte (b : UInt8) (k : Nat) : Takes byte.read k (byte.render b) b := by
  intro depth deep rest ends
  have read := takes_readNat b.toNat_lt (by decide) "u8" k depth deep rest ends
  change (readNat _ "u8" depth _).map _ = _
  rw [byte, read]
  simp [Except.map]

theorem opens_toDigits (n : Nat) : Opens (Nat.toDigits 10 n) := by
  obtain ⟨c, cs, digits, digit⟩ := toDigits_starts n
  refine ⟨c, cs, digits, isBlank_of_isDigit digit, ?_⟩
  rintro rfl
  cases digit

theorem takes_bytes (bytes : List UInt8) (k : Nat) :
    Takes (list byte).read (k + 1) ((list byte).render bytes) bytes :=
  takes_readList (fun b _ => opens_toDigits b.toNat) fun b _ => takes_byte b k

/-! ## Names -/

/-- A name that belongs to one value only is read as that value. -/
theorem takes_named {α : Type} {values : List α} {name : α → String} {x : α}
    (found : values.find? (name · == name x) = some x) (k : Nat) :
    Takes (named values name).read k ((named values name).render x) x := by
  apply takes_readVariant_unit
  have variant : (values.map fun x => (⟨name x, .unit x⟩ : Variant α)).find? (·.name == name x) =
      some ⟨name x, .unit x⟩ := by
    rw [List.find?_map]
    exact congrArg (Option.map _) found
  rw [variantNamed, variant]

theorem takes_operation (o : Operation) (k : Nat) : Takes operation.read k (operation.render o) o :=
  takes_named o.ofName?_name k

theorem takes_entityKind (kind : EntityKind) (k : Nat) :
    Takes entityKind.read k (entityKind.render kind) kind :=
  takes_named kind.ofName?_name k

theorem takes_deliveryState (s : DeliveryState) (k : Nat) :
    Takes deliveryState.read k (deliveryState.render s) s :=
  takes_named s.ofName?_name k

theorem takes_status (s : Status) (k : Nat) : Takes status.read k (status.render s) s := by
  apply takes_named
  cases s <;> decide

/-! ## Dates and times -/

/-- Characters that stand for themselves in a text. -/
def Bare (cs : List Char) : Prop := ∀ c ∈ cs, escapeChar c = [c]

theorem bare_cons {c : Char} {cs : List Char} : Bare (c :: cs) ↔ escapeChar c = [c] ∧ Bare cs :=
  List.forall_mem_cons

theorem bare_append {cs cs' : List Char} : Bare (cs ++ cs') ↔ Bare cs ∧ Bare cs' :=
  List.forall_mem_append

theorem escapeChar_of_isDigit {c : Char} (digit : c.isDigit = true) : escapeChar c = [c] := by
  obtain ⟨low, high⟩ := isDigit_iff.mp digit
  have low : 48 ≤ c.toNat := low
  have high : c.toNat ≤ 57 := high
  have quote : c ≠ '"' := by
    rintro rfl
    cases digit
  have backslash : c ≠ '\\' := by
    rintro rfl
    cases digit
  rw [escapeChar, if_neg quote, if_neg backslash, if_pos (by omega)]

theorem bare_padded (width n : Nat) : Bare (Rfc3339.padded width n) := by
  intro c member
  have digit := (Rfc3339.digits_padded width n).each c member
  rw [Rfc3339.isDigit_eq] at digit
  exact escapeChar_of_isDigit digit

theorem bare_renderYear (year : Int) : Bare (Rfc3339.renderYear year) := by
  unfold Rfc3339.renderYear
  split
  · exact bare_padded 4 _
  · rw [bare_cons]
    refine ⟨?_, bare_padded 4 _⟩
    split <;> rfl

theorem bare_renderFraction (nanos : Nat) : Bare (Rfc3339.renderFraction nanos) := by
  unfold Rfc3339.renderFraction
  split_ifs
  · exact List.forall_mem_nil _
  · exact bare_cons.mpr ⟨rfl, bare_padded 3 _⟩
  · exact bare_cons.mpr ⟨rfl, bare_padded 6 _⟩
  · exact bare_cons.mpr ⟨rfl, bare_padded 9 _⟩

theorem bare_render (t : Instant) : Bare (Rfc3339.render t) := by
  simp only [Rfc3339.render, bare_append, bare_cons, bare_padded, bare_renderYear,
    bare_renderFraction, and_true, true_and]
  exact ⟨by decide, rfl, List.forall_mem_nil _⟩

/-- Nothing in a date and time is escaped, so it is written as a text. -/
theorem instant_render (t : Instant) :
    instant.render t = renderString (String.ofList (Rfc3339.render t)) := by
  have same : (Rfc3339.render t).flatMap escapeChar = (Rfc3339.render t).flatMap fun c => [c] :=
    List.flatMap_congr (bare_render t)
  rw [renderString, String.toList_ofList, same, List.flatMap_singleton']
  rfl

theorem takes_instant {t : Instant} (regular : t.Regular) (k : Nat) :
    Takes instant.read k (instant.render t) t := by
  intro depth _ rest _
  rw [instant_render]
  change (readTextAs _ depth _ >>= _) = _
  rw [readTextAs_renderString]
  simp only [bind, Except.bind, Rfc3339.read_render regular]
  rfl

/-! ## What may be missing -/

/-- What is written between quotes is told from `null`. -/
theorem takes_optionText (o : Option String) (k : Nat) :
    Takes (readOption text.read) k ((option text).render o) o := by
  cases o with
  | none => exact takes_readOption_none _ k
  | some s => exact (takes_readTextAs _ s k).readOption ⟨_, _, rfl, rfl, by decide⟩

theorem takes_optionInstant {o : Option Instant} (regular : ∀ t ∈ o, t.Regular) (k : Nat) :
    Takes (readOption instant.read) k ((option instant).render o) o := by
  cases o with
  | none => exact takes_readOption_none _ k
  | some t => exact (takes_instant (regular t rfl) k).readOption ⟨_, _, rfl, rfl, by decide⟩

theorem takes_optionNat16 {o : Option Nat} (small : ∀ n ∈ o, n < UInt16.size) (k : Nat) :
    Takes (readOption nat16.read) k ((option nat16).render o) o := by
  cases o with
  | none => exact takes_readOption_none _ k
  | some n =>
    obtain ⟨c, cs, digits, digit⟩ := toDigits_starts n
    have takes : Takes nat16.read k (nat16.render n) n :=
      takes_readNat (small n rfl) (by decide) "u16" k
    refine takes.readOption ⟨c, cs, digits, isBlank_of_isDigit digit, ?_⟩
    rintro rfl
    cases digit

end Outbox.Form
