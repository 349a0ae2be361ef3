import Mathlib.Tactic.IntervalCases
import Outbox.Proofs.Doubles
import Outbox.Proofs.PlainValues

/-!
# Written values can be read, up to the nesting limit

A written value has no blanks, so the reader goes through it part by part: a text up to its closing
quote, a numeral up to what ends it, a list or an object through its parts. The induction is on the
nesting that is still allowed, as in the reader. Everything is read that nests less than the limit,
and of anything else the reader says that it is too deep. What is read is the value that was written
if that has no doubles.
-/
namespace Outbox.Json

open Outbox.Number

/-! ## Texts -/

/-- The escapes of the control characters, each with its value. -/
theorem readEscape_control {c : Char} (control : c.toNat < 0x20) (rest : List Char) :
    ∃ letter tail, escapeChar c = '\\' :: letter :: tail ∧
      readEscape (letter :: tail ++ rest) = .ok (c, rest) := by
  obtain ⟨n, code⟩ : ∃ n, c.toNat = n := ⟨_, rfl⟩
  have char : c = Char.ofNat n := by rw [← code, Char.ofNat_toNat]
  rw [code] at control
  subst char
  -- The escapes follow no rule, so each of the codes is looked at.
  interval_cases n <;> exact ⟨_, _, rfl, rfl⟩

/-- Every character is read back from what is written for it. -/
theorem readStringBody_escapeChar (c : Char) (fuel : Nat) (done rest : List Char) :
    readStringBody (fuel + 1) done (escapeChar c ++ rest) =
      readStringBody fuel (c :: done) rest := by
  by_cases quote : c = '"'
  · subst quote
    rfl
  by_cases backslash : c = '\\'
  · subst backslash
    rfl
  by_cases plain : 0x20 ≤ c.toNat
  · have written : escapeChar c = [c] := by
      rw [escapeChar, if_neg quote, if_neg backslash, if_pos plain]
    rw [written, List.singleton_append, readStringBody, if_neg quote, if_neg backslash,
      if_neg (by omega)]
  · obtain ⟨letter, tail, written, read⟩ := readEscape_control (Nat.not_le.mp plain) rest
    rw [written, List.cons_append, readStringBody, if_neg (by decide), if_pos rfl, read]
    rfl

theorem readStringBody_escaped (cs : List Char) {fuel : Nat} (enough : cs.length < fuel)
    (done rest : List Char) :
    readStringBody fuel done (cs.flatMap escapeChar ++ '"' :: rest) =
      .ok (done.reverse ++ cs, rest) := by
  induction cs generalizing fuel done with
  | nil =>
    obtain ⟨fuel, rfl⟩ := Nat.exists_eq_add_of_lt enough
    simp [readStringBody]
  | cons c cs ih =>
    obtain ⟨fuel, rfl⟩ := Nat.exists_eq_add_of_lt enough
    rw [List.flatMap_cons, List.append_assoc, readStringBody_escapeChar,
      ih (by rw [List.length_cons]; omega)]
    simp

theorem length_le_escaped (cs : List Char) : cs.length ≤ (cs.flatMap escapeChar).length := by
  have some (c : Char) : 0 < (escapeChar c).length := by
    unfold escapeChar
    split_ifs <;> simp
  induction cs with
  | nil => exact Nat.le_refl 0
  | cons c cs ih =>
    have first := some c
    rw [List.flatMap_cons, List.length_append, List.length_cons]
    omega

/-- A text is read back as it was written; the opening quote is read before. -/
theorem readString_escaped (s : String) (rest : List Char) :
    readString (s.toList.flatMap escapeChar ++ '"' :: rest) = .ok (s, rest) := by
  have enough : s.toList.length <
      (s.toList.flatMap escapeChar ++ '"' :: rest).length + 1 := by
    have each := length_le_escaped s.toList
    rw [List.length_append]
    omega
  rw [readString, readStringBody_escaped _ enough]
  simp [bind, Except.bind, pure, Except.pure]

/-! ## Parts -/

/-- How reading ends: with a good value and what is left, or, if it does not fit, too deep. -/
def Fared {α : Type} (result : Except Fault (α × List Char)) (good : α → Prop) (fits : Prop)
    (rest : List Char) : Prop :=
  (fits → ∃ x, good x ∧ result = .ok (x, rest)) ∧ (¬ fits → result = .error .tooDeep)

/-- How a reader fares with the text of a value, whatever follows it. -/
def Fares {α : Type} (reader : List Char → Except Fault (α × List Char)) (good : α → Prop)
    (fits : Prop) (part : List Char) : Prop :=
  ∀ rest, Ends rest → Fared (reader (part ++ rest)) good fits rest

section Steps

variable {α β γ : Type} {result : Except Fault (α × List Char)} {good : α → Prop}
  {good' : β → Prop} {good'' : γ → Prop} {fits fits' : Prop} {tail rest : List Char}

theorem Fared.congr (fared : Fared result good fits rest) (same : fits ↔ fits') :
    Fared result good fits' rest := by
  rwa [← propext same]

/-- A further step of reading changes what was read and what is left of it. -/
theorem Fared.bind (fared : Fared result good fits tail)
    {next : α × List Char → Except Fault (β × List Char)}
    (step : ∀ x, good x → ∃ y, good' y ∧ next (x, tail) = .ok (y, rest)) :
    Fared (result >>= next) good' fits rest := by
  constructor
  · intro fits
    obtain ⟨x, isGood, read⟩ := fared.1 fits
    obtain ⟨y, isGood', last⟩ := step x isGood
    exact ⟨y, isGood', by rw [read]; exact last⟩
  · intro deep
    rw [fared.2 deep]
    rfl

/-- One reading after another. -/
theorem Fared.andThen (fared : Fared result good fits tail)
    {second : List Char → Except Fault (β × List Char)}
    (behind : Fared (second tail) good' fits' rest) (build : α → β → γ)
    (built : ∀ {x y}, good x → good' y → good'' (build x y)) :
    Fared (do
      let (x, cs) ← result
      let (y, cs) ← second cs
      pure (build x y, cs)) good'' (fits ∧ fits') rest := by
  by_cases first : fits
  · obtain ⟨x, isGood, read⟩ := fared.1 first
    rw [read]
    refine (behind.bind ?_).congr (by simp [first])
    intro y isGood'
    exact ⟨build x y, built isGood isGood', rfl⟩
  · rw [fared.2 first]
    exact ⟨fun both => absurd both.1 first, fun _ => rfl⟩

end Steps

/-- The text of a value starts neither with a blank nor with the end of a list. -/
def Opens (part : List Char) : Prop :=
  ∃ c cs, part = c :: cs ∧ isBlank c = false ∧ c ≠ ']'

theorem joinWith_cons (part : List Char) (parts : List (List Char)) :
    joinWith [','] (part :: parts) = part ++ parts.flatMap (',' :: ·) := by
  induction parts generalizing part with
  | nil => simp [joinWith]
  | cons next parts ih => simp [joinWith, ih]

theorem skipBlanks_cons {c : Char} (solid : isBlank c = false) (cs : List Char) :
    skipBlanks (c :: cs) = c :: cs :=
  List.dropWhile_cons_of_neg (by simp [solid])

section Sequences

variable {α β : Type} {text : β → List Char} {good : β → α → Prop} {fits : β → Prop}

theorem ends_tail (parts : List (List Char)) {close : Char}
    (closes : close = ']' ∨ close = closeBrace) (rest : List Char) :
    Ends (parts.flatMap (',' :: ·) ++ close :: rest) := by
  cases parts with
  | nil =>
    intro c head
    cases head
    exact .inr closes
  | cons part parts =>
    intro c head
    cases head
    exact .inl rfl

/-! ### Lists -/

theorem nextElement_comma {part : List Char} (opens : Opens part) (rest : List Char) :
    nextElement false (',' :: (part ++ rest)) = .ok (true, part ++ rest) := by
  obtain ⟨c, cs, rfl, solid, other⟩ := opens
  rw [nextElement, skipBlanks_cons (by decide)]
  simp only [List.cons_append, skipBlanks_cons solid]
  simp [other]

theorem nextElement_first {part : List Char} (opens : Opens part) (rest : List Char) :
    nextElement true (part ++ rest) = .ok (true, part ++ rest) := by
  obtain ⟨c, cs, rfl, solid, other⟩ := opens
  rw [List.cons_append, nextElement, skipBlanks_cons solid]
  simp [other]

variable {element : List Char → Except Fault (α × List Char)}

/-- The elements of a list behind the first one. -/
theorem readElements_tail {xs : List β} (opens : ∀ x ∈ xs, Opens (text x))
    (each : ∀ x ∈ xs, Fares element (good x) (fits x) (text x)) {fuel : Nat}
    (enough : xs.length < fuel) (rest : List Char) :
    Fared (readElements element fuel false ((xs.map text).flatMap (',' :: ·) ++ ']' :: rest))
      (List.Forall₂ good xs) (∀ x ∈ xs, fits x) (']' :: rest) := by
  induction xs generalizing fuel with
  | nil =>
    obtain ⟨fuel, rfl⟩ := Nat.exists_eq_add_of_lt enough
    simp only [List.length_nil, Nat.zero_add, readElements]
    exact ⟨fun _ => ⟨[], .nil, rfl⟩, fun none => absurd (fun _ member => by cases member) none⟩
  | cons x xs ih =>
    -- The comma is read, the element up to the next comma or bracket, and then the others.
    obtain ⟨fuel, rfl⟩ := Nat.exists_eq_add_of_lt enough
    have next := nextElement_comma (opens x List.mem_cons_self)
      ((xs.map text).flatMap (',' :: ·) ++ ']' :: rest)
    have head := each x List.mem_cons_self _ (ends_tail (xs.map text) (.inl rfl) rest)
    have behind := ih (fun y member => opens y (List.mem_cons_of_mem _ member))
      (fun y member => each y (List.mem_cons_of_mem _ member))
      (show xs.length < (x :: xs).length + fuel by rw [List.length_cons]; omega)
    rw [List.map_cons, List.flatMap_cons, List.cons_append, List.cons_append, List.append_assoc,
      readElements, next]
    exact (head.andThen behind List.cons .cons).congr List.forall_mem_cons.symm

/-- The elements of a list. -/
theorem readElements_joined {xs : List β} (opens : ∀ x ∈ xs, Opens (text x))
    (each : ∀ x ∈ xs, Fares element (good x) (fits x) (text x)) {fuel : Nat}
    (enough : xs.length < fuel) (rest : List Char) :
    Fared (readElements element fuel true (joinWith [','] (xs.map text) ++ ']' :: rest))
      (List.Forall₂ good xs) (∀ x ∈ xs, fits x) (']' :: rest) := by
  obtain ⟨fuel, rfl⟩ := Nat.exists_eq_add_of_lt enough
  cases xs with
  | nil =>
    simp only [List.length_nil, Nat.zero_add, readElements]
    exact ⟨fun _ => ⟨[], .nil, rfl⟩, fun none => absurd (fun _ member => by cases member) none⟩
  | cons x xs =>
    have next := nextElement_first (opens x List.mem_cons_self)
      ((xs.map text).flatMap (',' :: ·) ++ ']' :: rest)
    have head := each x List.mem_cons_self _ (ends_tail (xs.map text) (.inl rfl) rest)
    have behind := readElements_tail (fun y member => opens y (List.mem_cons_of_mem _ member))
      (fun y member => each y (List.mem_cons_of_mem _ member))
      (show xs.length < (x :: xs).length + fuel by rw [List.length_cons]; omega) rest
    rw [List.map_cons, joinWith_cons, List.append_assoc, readElements, next]
    exact (head.andThen behind List.cons .cons).congr List.forall_mem_cons.symm

/-! ### Objects -/

/-- The text of a member. -/
def memberText (text : β → List Char) (m : String × β) : List Char :=
  renderString m.1 ++ ':' :: text m.2

theorem renderString_append (s : String) (rest : List Char) :
    renderString s ++ rest = '"' :: (s.toList.flatMap escapeChar ++ '"' :: rest) := by
  simp [renderString]

theorem nextKey_comma (key : String) (rest : List Char) :
    nextKey false (',' :: (renderString key ++ rest)) =
      .ok (true, key.toList.flatMap escapeChar ++ '"' :: rest) := by
  rw [renderString_append]
  rfl

theorem nextKey_first (key : String) (rest : List Char) :
    nextKey true (renderString key ++ rest) =
      .ok (true, key.toList.flatMap escapeChar ++ '"' :: rest) := by
  rw [renderString_append]
  rfl

variable {value : List Char → Except Fault (α × List Char)}

/-- A key and its colon are read before the value, with no blank on either side of the colon. -/
theorem readMembers_of_nextKey {key : String} {part cs : List Char} {first : Bool}
    (next : nextKey first cs = .ok (true, key.toList.flatMap escapeChar ++ '"' :: ':' :: part))
    (fuel : Nat) :
    readMembers value (fuel + 1) first cs = (do
      let one ← value part
      let others ← readMembers value fuel false one.2
      pure ((key, one.1) :: others.1, others.2)) := by
  rw [readMembers, next]
  change (readString _ >>= _) = _
  rw [readString_escaped]
  rfl

/-- Members of the same keys, each with a value that is good for what was written. -/
def Matching (good : β → α → Prop) : List (String × β) → List (String × α) → Prop :=
  List.Forall₂ fun m n => m.1 = n.1 ∧ good m.2 n.2

/-- A key, its colon and its value, and then the other members. -/
theorem readMembers_step {m : String × β} {ms : List (String × β)} {part tail rest cs : List Char}
    {first : Bool} {fuel : Nat} {fits fits' : Prop}
    (next : nextKey first cs =
      .ok (true, m.1.toList.flatMap escapeChar ++ '"' :: ':' :: (part ++ tail)))
    (head : Fared (value (part ++ tail)) (good m.2) fits tail)
    (behind : Fared (readMembers value fuel false tail) (Matching good ms) fits' rest) :
    Fared (readMembers value (fuel + 1) first cs) (Matching good (m :: ms)) (fits ∧ fits')
      rest := by
  rw [readMembers_of_nextKey next]
  refine head.andThen behind (fun x xs => (m.1, x) :: xs) ?_
  intro x xs isGood others
  exact .cons ⟨rfl, isGood⟩ others

theorem readMembers_tail (text : β → List Char) (good : β → α → Prop) (fits : β → Prop)
    {ms : List (String × β)} (each : ∀ m ∈ ms, Fares value (good m.2) (fits m.2) (text m.2))
    {fuel : Nat} (enough : ms.length < fuel) (rest : List Char) :
    Fared (readMembers value fuel false
        ((ms.map (memberText text)).flatMap (',' :: ·) ++ closeBrace :: rest))
      (Matching good ms) (∀ m ∈ ms, fits m.2) (closeBrace :: rest) := by
  induction ms generalizing fuel with
  | nil =>
    obtain ⟨fuel, rfl⟩ := Nat.exists_eq_add_of_lt enough
    simp only [List.length_nil, Nat.zero_add, readMembers]
    exact ⟨fun _ => ⟨[], .nil, rfl⟩, fun none => absurd (fun _ member => by cases member) none⟩
  | cons m ms ih =>
    obtain ⟨fuel, rfl⟩ := Nat.exists_eq_add_of_lt enough
    have behind := ih (fun y member => each y (List.mem_cons_of_mem _ member))
      (show ms.length < (m :: ms).length + fuel by rw [List.length_cons]; omega)
    have head := each m List.mem_cons_self _
      (ends_tail (ms.map (memberText text)) (.inr rfl) rest)
    rw [List.map_cons, List.flatMap_cons, List.cons_append, List.cons_append, List.append_assoc,
      memberText, List.append_assoc, List.cons_append]
    exact (readMembers_step (nextKey_comma m.1 _) head behind).congr (by rw [List.forall_mem_cons])

/-- The members of an object. -/
theorem readMembers_joined (text : β → List Char) (good : β → α → Prop) (fits : β → Prop)
    {ms : List (String × β)} (each : ∀ m ∈ ms, Fares value (good m.2) (fits m.2) (text m.2))
    {fuel : Nat} (enough : ms.length < fuel) (rest : List Char) :
    Fared (readMembers value fuel true
        (joinWith [','] (ms.map (memberText text)) ++ closeBrace :: rest))
      (Matching good ms) (∀ m ∈ ms, fits m.2) (closeBrace :: rest) := by
  obtain ⟨fuel, rfl⟩ := Nat.exists_eq_add_of_lt enough
  cases ms with
  | nil =>
    simp only [List.length_nil, Nat.zero_add, readMembers]
    exact ⟨fun _ => ⟨[], .nil, rfl⟩, fun none => absurd (fun _ member => by cases member) none⟩
  | cons m ms =>
    have behind := readMembers_tail text good fits
      (fun y member => each y (List.mem_cons_of_mem _ member))
      (show ms.length < (m :: ms).length + fuel by rw [List.length_cons]; omega) rest
    have head := each m List.mem_cons_self _
      (ends_tail (ms.map (memberText text)) (.inr rfl) rest)
    rw [List.map_cons, joinWith_cons, List.append_assoc, memberText, List.append_assoc,
      List.cons_append]
    exact (readMembers_step (nextKey_first m.1 _) head behind).congr (by rw [List.forall_mem_cons])

end Sequences

/-! ## Nesting -/

mutual

/-- How many lists and objects are open at once. -/
def depth : Json → Nat
  | .arr xs => depthElements xs + 1
  | .obj ms => depthMembers ms + 1
  | _ => 0

def depthElements : List Json → Nat
  | [] => 0
  | x :: rest => max (depth x) (depthElements rest)

def depthMembers : List (String × Json) → Nat
  | [] => 0
  | (_, v) :: rest => max (depth v) (depthMembers rest)

end

theorem depthElements_le_iff {xs : List Json} {k : Nat} :
    depthElements xs ≤ k ↔ ∀ x ∈ xs, x.depth ≤ k := by
  induction xs with
  | nil => simp [depthElements]
  | cons x xs ih => rw [depthElements, Nat.max_le, ih, List.forall_mem_cons]

theorem depthMembers_le_iff {ms : List (String × Json)} {k : Nat} :
    depthMembers ms ≤ k ↔ ∀ m ∈ ms, m.2.depth ≤ k := by
  induction ms with
  | nil => simp [depthMembers]
  | cons m ms ih =>
    obtain ⟨key, v⟩ := m
    rw [depthMembers, Nat.max_le, ih, List.forall_mem_cons]

theorem renderElements_eq (xs : List Json) : renderElements xs = xs.map render := by
  induction xs with
  | nil => rfl
  | cons x xs ih => rw [renderElements, ih, List.map_cons]

theorem renderMembers_eq (ms : List (String × Json)) :
    renderMembers ms = ms.map (memberText render) := by
  induction ms with
  | nil => rfl
  | cons m ms ih =>
    obtain ⟨key, v⟩ := m
    rw [renderMembers, ih, List.map_cons]
    rfl

/-! ## Values -/

/-- A number starts with its sign or with a digit. -/
theorem render_number_starts (n : Number) :
    ∃ c cs, n.render = c :: cs ∧ (c = '-' ∨ c.isDigit = true) := by
  cases n with
  | nat n =>
    obtain ⟨c, cs, digits, digit⟩ := toDigits_starts n.val
    exact ⟨c, cs, digits, .inr digit⟩
  | negSucc n => exact ⟨_, _, rfl, .inl rfl⟩
  | real x =>
    obtain ⟨c, cs, layout, digit⟩ := layout_starts x.shortest
    rw [Number.render, Binary64.render, layout]
    cases x.negative with
    | true => exact ⟨_, _, rfl, .inl rfl⟩
    | false => exact ⟨_, _, rfl, .inr digit⟩

theorem isBlank_of_isDigit {c : Char} (digit : c.isDigit = true) : isBlank c = false := by
  rw [isBlank, Bool.or_eq_false_iff, Bool.or_eq_false_iff, Bool.or_eq_false_iff]
  simp only [beq_eq_false_iff_ne]
  refine ⟨⟨⟨?_, ?_⟩, ?_⟩, ?_⟩ <;> (rintro rfl; cases digit)

theorem opens_render (v : Json) : Opens v.render := by
  cases v with
  | null | str s | arr xs | obj ms => exact ⟨_, _, by rw [render]; rfl, by decide, by decide⟩
  | bool b => cases b <;> exact ⟨_, _, by rw [render]; rfl, by decide, by decide⟩
  | num n =>
    obtain ⟨c, cs, written, starts⟩ := render_number_starts n
    refine ⟨c, cs, by rw [render, written], ?_⟩
    rcases starts with rfl | digit
    · decide
    · refine ⟨isBlank_of_isDigit digit, ?_⟩
      rintro rfl
      cases digit

theorem readValue_digit {c : Char} (digit : c.isDigit = true) (cs : List Char) (depth : Nat) :
    readValue (depth + 1) (c :: cs) =
      (readNumeral false (c :: cs)).map fun (n, rest) => (.num n, rest) := by
  have other {d : Char} (letter : d.isDigit = false) : c ≠ d := by
    rintro rfl
    rw [digit] at letter
    cases letter
  have some : (digit? c).isSome = true := by rw [isSome_digit?, digit]
  rw [readValue, skipBlanks_cons (isBlank_of_isDigit digit)]
  simp only [if_neg (other (d := 'n') rfl), if_neg (other (d := 't') rfl),
    if_neg (other (d := 'f') rfl), if_neg (other (d := '-') rfl), some, if_true]

theorem readValue_unsigned {cs rest : List Char} {m : Number}
    (starts : ∃ c tail, cs = c :: tail ∧ c.isDigit = true)
    (read : readNumeral false (cs ++ rest) = .ok (m, rest)) (depth : Nat) :
    readValue (depth + 1) (cs ++ rest) = .ok (.num m, rest) := by
  obtain ⟨c, tail, rfl, digit⟩ := starts
  rw [List.cons_append] at read ⊢
  rw [readValue_digit digit, read]
  rfl

theorem readValue_nat (n : Fin UInt64.size) (depth : Nat) {rest : List Char} (ends : Ends rest) :
    readValue (depth + 1) ((Number.nat n).render ++ rest) = .ok (.num (.nat n), rest) :=
  readValue_unsigned (toDigits_starts n.val) (readNumeral_nat n ends) depth

theorem readValue_negSucc (n : Fin (UInt64.size / 2)) (depth : Nat) {rest : List Char}
    (ends : Ends rest) :
    readValue (depth + 1) ((Number.negSucc n).render ++ rest) = .ok (.num (.negSucc n), rest) := by
  change (readNumeral true (Nat.toDigits 10 (n.val + 1) ++ rest)).map _ = _
  rw [readNumeral_negSucc n ends]
  rfl

theorem readValue_number (n : Number) (depth : Nat) {rest : List Char} (ends : Ends rest) :
    ∃ m, ((Json.num n).IsPlain → m = n) ∧
      readValue (depth + 1) (n.render ++ rest) = .ok (.num m, rest) := by
  cases n with
  | nat n => exact ⟨.nat n, fun _ => rfl, readValue_nat n depth ends⟩
  | negSucc n => exact ⟨.negSucc n, fun _ => rfl, readValue_negSucc n depth ends⟩
  | real x =>
    obtain ⟨y, read⟩ := readNumeral_double ends x.negative x
    refine ⟨.real y, (fun plain => by cases plain.integers), ?_⟩
    rw [Number.render, Binary64.render]
    cases sign : x.negative with
    | true =>
      rw [sign] at read
      change (readNumeral true (numberLayout.layout x.shortest ++ rest)).map _ = _
      rw [read]
      rfl
    | false =>
      rw [sign] at read
      exact readValue_unsigned (layout_starts x.shortest) read depth

theorem readValue_str (s : String) (depth : Nat) (rest : List Char) :
    readValue (depth + 1) (renderString s ++ rest) = .ok (.str s, rest) := by
  rw [renderString_append]
  change (readString _).map _ = _
  rw [readString_escaped]
  rfl

/-- What is neither a list nor an object is read at any nesting. -/
theorem readValue_flat {v : Json} (flat : v.depth = 0) (k : Nat) {rest : List Char}
    (ends : Ends rest) :
    ∃ w, (v.IsPlain → w = v) ∧ readValue (k + 1) (v.render ++ rest) = .ok (w, rest) := by
  cases v with
  | null => exact ⟨.null, fun _ => rfl, by rw [render]; rfl⟩
  | bool b => cases b <;> exact ⟨_, fun _ => rfl, by rw [render]; rfl⟩
  | num n =>
    obtain ⟨m, same, read⟩ := readValue_number n k ends
    exact ⟨.num m, fun plain => congrArg Json.num (same plain), by rw [render, read]⟩
  | str s => exact ⟨.str s, fun _ => rfl, by rw [render, readValue_str]⟩
  | arr xs | obj ms => simp [depth] at flat

/-- The fuel is the length of the text, and every part takes a character at least. -/
theorem length_lt_joined (parts : List (List Char)) (close : Char) (rest : List Char) :
    parts.length < (joinWith [','] parts ++ close :: rest).length + 1 := by
  have tail (parts : List (List Char)) : parts.length ≤ (parts.flatMap (',' :: ·)).length := by
    induction parts with
    | nil => exact Nat.le_refl 0
    | cons part parts ih =>
      rw [List.flatMap_cons, List.length_append, List.length_cons, List.length_cons]
      omega
  rw [List.length_append, List.length_cons]
  cases parts with
  | nil => exact Nat.succ_pos _
  | cons part parts =>
    have bound := tail parts
    rw [joinWith_cons, List.length_append, List.length_cons]
    omega

theorem eq_of_forall₂ {α : Type} {good : α → α → Prop} {xs ys : List α}
    (each : List.Forall₂ good xs ys) (same : ∀ x ∈ xs, ∀ y, good x y → y = x) : ys = xs := by
  induction each with
  | nil => rfl
  | cons first _ ih =>
    obtain ⟨head, tail⟩ := List.forall_mem_cons.mp same
    rw [head _ first, ih tail]

/-- A written value is read exactly when it nests no deeper than is allowed; otherwise it is found
too deep. A plain value is read as it is. -/
theorem readValue_render (k : Nat) (v : Json) :
    Fares (readValue (k + 1)) (fun w => v.IsPlain → w = v) (v.depth ≤ k) v.render := by
  intro rest ends
  induction k generalizing v rest with
  | zero =>
    -- On the last level a list or an object is refused at its bracket.
    cases v with
    | arr xs => exact ⟨fun flat => by simp [depth] at flat, fun _ => by rw [render]; rfl⟩
    | obj ms => exact ⟨fun flat => by simp [depth] at flat, fun _ => by rw [render]; rfl⟩
    | null | bool _ | num _ | str _ =>
      exact ⟨fun _ => readValue_flat rfl 0 ends, fun deep => absurd (Nat.zero_le 0) deep⟩
  | succ k ih =>
    cases v with
    | arr xs =>
      have enough := length_lt_joined (xs.map render) ']' rest
      rw [List.length_map] at enough
      have elements := readElements_joined (fun x _ => opens_render x)
        (fun x _ rest ends => ih x rest ends) enough rest
      have fits : (∀ x ∈ xs, x.depth ≤ k) ↔ (Json.arr xs).depth ≤ k + 1 := by
        rw [depth, Nat.succ_le_succ_iff, depthElements_le_iff]
      rw [render, renderElements_eq, List.cons_append, List.cons_append, List.append_assoc]
      refine (elements.bind ?_).congr fits
      intro ys each
      refine ⟨.arr ys, ?_, rfl⟩
      intro plain
      exact congrArg Json.arr
        (eq_of_forall₂ each fun x member y same => same (plain.element member))
    | obj ms =>
      have enough := length_lt_joined (ms.map (memberText render)) closeBrace rest
      rw [List.length_map] at enough
      have members := readMembers_joined render (fun v w => v.IsPlain → w = v)
        (fun v => v.depth ≤ k) (fun m _ rest ends => ih m.2 rest ends) enough rest
      have fits : (∀ m ∈ ms, m.2.depth ≤ k) ↔ (Json.obj ms).depth ≤ k + 1 := by
        rw [depth, Nat.succ_le_succ_iff, depthMembers_le_iff]
      rw [render, renderMembers_eq, List.cons_append, List.cons_append, List.append_assoc]
      refine (members.bind ?_).congr fits
      intro ns matching
      refine ⟨ofMembers ns, ?_, rfl⟩
      -- The members of an object are in order, so putting them into it one by one moves none.
      intro plain
      have same : ns = ms := eq_of_forall₂ matching fun m member n ⟨key, same⟩ =>
        Prod.ext key.symm (same (plain.member member))
      rw [same, ofMembers_of_sorted plain.pairwise]
    | null | bool _ | num _ | str _ =>
      exact ⟨fun _ => readValue_flat rfl (k + 1) ends, fun deep => absurd (Nat.zero_le _) deep⟩

end Outbox.Json
