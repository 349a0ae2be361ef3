import Outbox.Json.Numeral

/-!
# Reading JSON

A reader takes the characters that are left and the nesting that is still allowed, and gives a
value and what is left after it, or the first fault. Blanks before a value belong to the value.
-/
namespace Outbox.Json

/-- Reads a value at the given remaining nesting. -/
abbrev Reader (α : Type) := Nat → List Char → Except Fault (α × List Char)

/-- A text may nest 127 levels deep. -/
def nestingLimit : Nat := 128

def isBlank (c : Char) : Bool := c == ' ' || c == '\n' || c == '\t' || c == '\r'

def skipBlanks (cs : List Char) : List Char := cs.dropWhile isBlank

def openBrace : Char := Char.ofNat 0x7b
def closeBrace : Char := Char.ofNat 0x7d

/-- The rest of a word such as `null`, whose first letter is read. -/
def readWord (word cs : List Char) : Except Fault (List Char) :=
  match word, cs with
  | [], cs => .ok cs
  | _ :: _, [] => .error .endInValue
  | w :: word, c :: cs => if w = c then readWord word cs else .error .expectedWord

/-! ## Texts -/

/-- The number of a `\u` escape. The four positions are bytes of the written form. -/
def readFourHex (cs : List Char) : Except Fault (Nat × List Char) :=
  if (cs.take 4).foldl (fun n c => n + c.utf8Size) 0 < 4 then .error .endInString
  else
    match cs with
    | a :: b :: c :: d :: rest =>
      match Text.hexValue? a, Text.hexValue? b, Text.hexValue? c, Text.hexValue? d with
      | some a, some b, some c, some d => .ok (((a * 16 + b) * 16 + c) * 16 + d, rest)
      | _, _, _, _ => .error .invalidEscape
    | _ => .error .invalidEscape

def isHighSurrogate (n : Nat) : Bool := 0xd800 ≤ n && n ≤ 0xdbff
def isLowSurrogate (n : Nat) : Bool := 0xdc00 ≤ n && n ≤ 0xdfff

/-- The second half of a surrogate pair. -/
def readLowSurrogate (high : Nat) (cs : List Char) : Except Fault (Char × List Char) :=
  match cs with
  | [] => .error .endInString
  | '\\' :: [] => .error .endInString
  | '\\' :: 'u' :: rest => do
    let (low, rest) ← readFourHex rest
    if isLowSurrogate low then
      pure (Char.ofNat ((high - 0xd800) * 0x400 + (low - 0xdc00) + 0x10000), rest)
    else .error .loneSurrogate
  | _ => .error .missingLowSurrogate

/-- The letter of an escape and the character that it stands for. -/
def escapeLetters : List (Char × Char) :=
  [('"', '"'), ('\\', '\\'), ('/', '/'), ('b', '\x08'), ('f', '\x0c'), ('n', '\n'), ('r', '\r'),
    ('t', '\t')]

/-- An escape after its backslash. -/
def readEscape (cs : List Char) : Except Fault (Char × List Char) :=
  match cs with
  | [] => .error .endInString
  | 'u' :: rest => do
    let (n, rest) ← readFourHex rest
    if isLowSurrogate n then .error .loneSurrogate
    else if isHighSurrogate n then readLowSurrogate n rest
    else pure (Char.ofNat n, rest)
  | c :: rest =>
    match escapeLetters.lookup c with
    | some value => .ok (value, rest)
    | none => .error .invalidEscape

/-- The characters of a text up to its closing quote. An escape takes several characters, so the
number of steps is bounded by the length. -/
def readStringBody : Nat → List Char → List Char → Except Fault (List Char × List Char)
  | _, _, [] => .error .endInString
  | 0, _, _ => .error .endInString
  | fuel + 1, done, c :: rest =>
    if c = '"' then .ok (done.reverse, rest)
    else if c = '\\' then do
      let (value, rest) ← readEscape rest
      readStringBody fuel (value :: done) rest
    else if c.toNat < 0x20 then .error .controlCharacter
    else readStringBody fuel (c :: done) rest

/-- A text after its opening quote. -/
def readString (cs : List Char) : Except Fault (String × List Char) := do
  let (chars, rest) ← readStringBody (cs.length + 1) [] cs
  pure (String.ofList chars, rest)

/-- Passes over an escape: the letter and the hexadecimal digits are checked, surrogates are not. -/
def skipEscape (cs : List Char) : Except Fault (List Char) :=
  match cs with
  | [] => .error .endInString
  | 'u' :: rest => (readFourHex rest).map (·.2)
  | c :: rest => if (escapeLetters.lookup c).isSome then .ok rest else .error .invalidEscape

def skipStringBody : Nat → List Char → Except Fault (List Char)
  | _, [] => .error .endInString
  | 0, _ => .error .endInString
  | fuel + 1, c :: rest =>
    if c = '"' then .ok rest
    else if c = '\\' then do
      let rest ← skipEscape rest
      skipStringBody fuel rest
    else if c.toNat < 0x20 then .error .controlCharacter
    else skipStringBody fuel rest

def skipString (cs : List Char) : Except Fault (List Char) := skipStringBody (cs.length + 1) cs

/-! ## Lists and objects -/

/-- Whether another element follows; `first` says that none was read yet. The result stands at
the element, or before the closing bracket. -/
def nextElement (first : Bool) (cs : List Char) : Except Fault (Bool × List Char) :=
  match skipBlanks cs with
  | [] => .error .endInList
  | c :: rest =>
    if c = ']' then .ok (false, c :: rest)
    else if first then .ok (true, c :: rest)
    else if c = ',' then
      match skipBlanks rest with
      | [] => .error .endInValue
      | d :: rest => if d = ']' then .error .trailingComma else .ok (true, d :: rest)
    else .error .expectedListEnd

/-- The closing bracket of a list of which all wanted elements are read. -/
def endList (cs : List Char) : Except Fault (List Char) :=
  match skipBlanks cs with
  | [] => .error .endInList
  | c :: rest =>
    if c = ']' then .ok rest
    else if c = ',' then
      if (skipBlanks rest).head? == some ']' then .error .trailingComma
      else .error .trailingCharacters
    else .error .trailingCharacters

/-- Whether another member follows. The result stands after the quote that opens the key, or
before the closing brace. -/
def nextKey (first : Bool) (cs : List Char) : Except Fault (Bool × List Char) :=
  match skipBlanks cs with
  | [] => .error .endInObject
  | c :: rest =>
    if c = closeBrace then .ok (false, c :: rest)
    else if first then
      if c = '"' then .ok (true, rest) else .error .keyNotString
    else if c = ',' then
      match skipBlanks rest with
      | [] => .error .endInValue
      | d :: rest =>
        if d = '"' then .ok (true, rest)
        else if d = closeBrace then .error .trailingComma
        else .error .keyNotString
    else .error .expectedObjectEnd

def endObject (cs : List Char) : Except Fault (List Char) :=
  match skipBlanks cs with
  | [] => .error .endInObject
  | c :: rest =>
    if c = closeBrace then .ok rest
    else if c = ',' then .error .trailingComma
    else .error .trailingCharacters

/-- The colon after a key. -/
def readColon (cs : List Char) : Except Fault (List Char) :=
  match skipBlanks cs with
  | [] => .error .endInObject
  | c :: rest => if c = ':' then .ok rest else .error .expectedColon

/-- The elements of a list, read one by one; every element takes at least one character. -/
def readElements {α : Type} (element : List Char → Except Fault (α × List Char)) :
    Nat → Bool → List Char → Except Fault (List α × List Char)
  | 0, _, _ => .error .endInList
  | fuel + 1, first, cs => do
    let (more, cs) ← nextElement first cs
    if more then
      let (x, cs) ← element cs
      let (xs, cs) ← readElements element fuel false cs
      pure (x :: xs, cs)
    else pure ([], cs)

/-- The members of an object in the order of the text. -/
def readMembers {α : Type} (value : List Char → Except Fault (α × List Char)) :
    Nat → Bool → List Char → Except Fault (List (String × α) × List Char)
  | 0, _, _ => .error .endInObject
  | fuel + 1, first, cs => do
    let (more, cs) ← nextKey first cs
    if more then
      let (key, cs) ← readString cs
      let cs ← readColon cs
      let (x, cs) ← value cs
      let (xs, cs) ← readMembers value fuel false cs
      pure ((key, x) :: xs, cs)
    else pure ([], cs)

/-- Enters a list or an object: one level of nesting is used, and the last one is refused. -/
def nested {α : Type} (inner : Reader α) : Reader α
  | 0, _ => .error .tooDeep
  | 1, _ => .error .tooDeep
  | depth + 2, cs => inner (depth + 1) cs

/-- Reads any value. -/
def readValue : Reader Json
  | 0, _ => .error .tooDeep
  | depth + 1, cs =>
    match skipBlanks cs with
    | [] => .error .endInValue
    | c :: rest =>
      if c = 'n' then (readWord "ull".toList rest).map fun rest => (.null, rest)
      else if c = 't' then (readWord "rue".toList rest).map fun rest => (.bool true, rest)
      else if c = 'f' then (readWord "alse".toList rest).map fun rest => (.bool false, rest)
      else if c = '-' then (readNumeral true rest).map fun (n, rest) => (.num n, rest)
      else if (digit? c).isSome then
        (readNumeral false (c :: rest)).map fun (n, rest) => (.num n, rest)
      else if c = '"' then (readString rest).map fun (s, rest) => (.str s, rest)
      else if c = '[' then
        if depth = 0 then .error .tooDeep
        else do
          let (xs, rest) ← readElements (readValue depth) (rest.length + 1) true rest
          let rest ← endList rest
          pure (.arr xs, rest)
      else if c = openBrace then
        if depth = 0 then .error .tooDeep
        else do
          let (ms, rest) ← readMembers (readValue depth) (rest.length + 1) true rest
          let rest ← endObject rest
          pure (ofMembers ms, rest)
      else .error .expectedValue

/-! ## Values that are passed over -/

inductive Bracket where
  | list
  | object
  deriving DecidableEq

/-- The key of a member that is passed over, and its colon. -/
def skipKey (cs : List Char) : Except Fault (List Char) :=
  match skipBlanks cs with
  | [] => .error .endInObject
  | c :: rest =>
    if c = '"' then do
      let rest ← skipString rest
      readColon rest
    else .error .keyNotString

/-- Where a value that is passed over goes on: before a value, or after one, inside the brackets
that are still open. `opened` marks that the innermost bracket was opened just now. -/
inductive SkipState where
  | value
  | after (opened : Bool)

/-- Passes over one value, with any nesting. Every two steps take a character. -/
def skipSteps : Nat → SkipState → List Bracket → List Char → Except Fault (List Char)
  | 0, _, _, _ => .error .endInValue
  | fuel + 1, .value, stack, cs =>
    match skipBlanks cs with
    | [] => .error .endInValue
    | c :: rest =>
      if c = 'n' then do skipSteps fuel (.after false) stack (← readWord "ull".toList rest)
      else if c = 't' then do skipSteps fuel (.after false) stack (← readWord "rue".toList rest)
      else if c = 'f' then do skipSteps fuel (.after false) stack (← readWord "alse".toList rest)
      else if c = '-' then do skipSteps fuel (.after false) stack (← skipNumeral rest)
      else if (digit? c).isSome then do
        skipSteps fuel (.after false) stack (← skipNumeral (c :: rest))
      else if c = '"' then do skipSteps fuel (.after false) stack (← skipString rest)
      else if c = '[' then skipSteps fuel (.after true) (.list :: stack) rest
      else if c = openBrace then skipSteps fuel (.after true) (.object :: stack) rest
      else .error .expectedValue
  | _ + 1, .after _, [], cs => .ok cs
  | fuel + 1, .after opened, .list :: stack, cs =>
    match skipBlanks cs with
    | [] => .error .endInList
    | c :: rest =>
      if c = ']' then skipSteps fuel (.after false) stack rest
      else if opened then skipSteps fuel .value (.list :: stack) (c :: rest)
      else if c = ',' then skipSteps fuel .value (.list :: stack) rest
      else .error .expectedListEnd
  | fuel + 1, .after opened, .object :: stack, cs =>
    match skipBlanks cs with
    | [] => .error .endInObject
    | c :: rest =>
      if c = closeBrace then skipSteps fuel (.after false) stack rest
      else if opened then do
        skipSteps fuel .value (.object :: stack) (← skipKey (c :: rest))
      else if c = ',' then do
        skipSteps fuel .value (.object :: stack) (← skipKey rest)
      else .error .expectedObjectEnd

/-- Passes over one value. -/
def skipValue (cs : List Char) : Except Fault (List Char) :=
  skipSteps (2 * cs.length + 2) .value [] cs

/-! ## Whole texts -/

/-- Reads a text that holds one value and nothing after it. -/
def readAll {α : Type} (reader : Reader α) (s : String) : Except Fault α := do
  let (x, rest) ← reader nestingLimit s.toList
  if (skipBlanks rest).isEmpty then pure x else .error .trailingCharacters

/-- Reads a text as any value. -/
def parse (s : String) : Except Fault Json := readAll readValue s

end Outbox.Json
