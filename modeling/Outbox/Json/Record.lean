import Outbox.Json.Reader

/-!
# Reading records and variants

A record is written as an object whose members may come in any order, or as a list of its fields
in order. Members of other names are passed over. A variant is written as its name, or as an
object with one member that carries its content.
-/
namespace Outbox.Json

/-- Changes what is read. -/
def mapRead {α β : Type} (f : α → β) (reader : Reader α) : Reader β := fun depth cs =>
  (reader depth cs).map fun (x, rest) => (f x, rest)

/-! ## Values of one kind -/

/-- Reports what stands in the place of a value of another kind. A numeral or a text is read to
its end before it is reported. -/
def reportFound {α : Type} (expected : String) (cs : List Char) : Except Fault α :=
  let report (found : Found) : Except Fault α := .error (.wrongType found expected)
  let number (negative : Bool) (cs : List Char) : Except Fault α := do
    let (n, _) ← readNumeral negative cs
    match n with
    | .real x => report (.real x)
    | n => report (.integer (n.toInt?.getD 0))
  match cs with
  | [] => .error .endInValue
  | c :: rest =>
    if c = 'n' then do
      let _ ← readWord "ull".toList rest
      report .null
    else if c = 't' then do
      let _ ← readWord "rue".toList rest
      report (.bool true)
    else if c = 'f' then do
      let _ ← readWord "alse".toList rest
      report (.bool false)
    else if c = '-' then number true rest
    else if (digit? c).isSome then number false (c :: rest)
    else if c = '"' then do
      let (s, _) ← readString rest
      report (.text s)
    else if c = '[' then report .sequence
    else if c = openBrace then report .map
    else .error .expectedValue

/-- Reads a text; `expected` names what it should be. -/
def readTextAs (expected : String) : Reader String := fun _ cs =>
  match skipBlanks cs with
  | '"' :: rest => readString rest
  | cs => reportFound expected cs

def readText : Reader String := readTextAs "a string"

def readBool : Reader Bool := fun _ cs =>
  match skipBlanks cs with
  | 't' :: rest => (readWord "rue".toList rest).map fun rest => (true, rest)
  | 'f' :: rest => (readWord "alse".toList rest).map fun rest => (false, rest)
  | cs => reportFound "a boolean" cs

/-- Reads a natural number below a limit. -/
def readNat (limit : Nat) (expected : String) : Reader Nat := fun _ cs =>
  let check (r : Except Fault (Number × List Char)) : Except Fault (Nat × List Char) := do
    let (n, rest) ← r
    match n with
    | .nat n =>
      if n.val < limit then pure (n.val, rest)
      else .error (.wrongValue (.integer n.val) expected)
    | .negSucc n => .error (.wrongValue (.integer (.negSucc n.val)) expected)
    | .real x => .error (.wrongType (.real x) expected)
  match skipBlanks cs with
  | [] => .error .endInValue
  | c :: rest =>
    if c = '-' then check (readNumeral true rest)
    else if (digit? c).isSome then check (readNumeral false (c :: rest))
    else reportFound expected (c :: rest)

def readByte : Reader Nat := readNat UInt8.size "u8"
def readNat16 : Reader Nat := readNat UInt16.size "u16"
def readNat32 : Reader Nat := readNat UInt32.size "u32"
def readNat64 : Reader Nat := readNat UInt64.size "u64"
def readSize : Reader Nat := readNat UInt64.size "usize"

/-- Reads `null` as nothing. -/
def readOption {α : Type} (reader : Reader α) : Reader (Option α) := fun depth cs =>
  match skipBlanks cs with
  | 'n' :: rest => (readWord "ull".toList rest).map fun rest => (none, rest)
  | cs => (reader depth cs).map fun (x, rest) => (some x, rest)

/-- Reads `null`. -/
def readUnit : Reader Unit := fun _ cs =>
  match skipBlanks cs with
  | 'n' :: rest => (readWord "ull".toList rest).map fun rest => ((), rest)
  | cs => reportFound "unit" cs

def readList {α : Type} (element : Reader α) : Reader (List α) := fun depth cs =>
  match skipBlanks cs with
  | '[' :: rest =>
    nested (fun depth cs => do
      let (xs, rest) ← readElements (element depth) (cs.length + 1) true cs
      let rest ← endList rest
      pure (xs, rest)) depth rest
  | cs => reportFound "a sequence" cs

/-! ## Records -/

/-- A field: its name, whether it may be missing, and how its value goes into the record. -/
structure Member (α : Type) where
  name : String
  optional : Bool
  read : Reader (α → α)

namespace Member

def required {α β : Type} (name : String) (reader : Reader β) (set : β → α → α) : Member α where
  name := name
  optional := false
  read := mapRead set reader

def optionally {α β : Type} (name : String) (reader : Reader β) (set : Option β → α → α) :
    Member α where
  name := name
  optional := true
  read := mapRead set (readOption reader)

end Member

/-- A record: what it is called in messages, its fields in order, and a record to start from,
which every required field overwrites. -/
structure Shape (α : Type) where
  title : String
  fields : List (Member α)
  draft : α

namespace Shape

/-- The record and the number of its fields, as messages name them. -/
def sized {α : Type} (s : Shape α) : String :=
  let n := s.fields.length
  s.title ++ " with " ++ toString n ++ (if n = 1 then " element" else " elements")

/-- The fields in order, as elements of a list. -/
def readInOrder {α : Type} (s : Shape α) (depth : Nat) :
    List (Member α) → Nat → α → List Char → Except Fault (α × List Char)
  | [], _, x, cs => .ok (x, cs)
  | f :: rest, index, x, cs => do
    let (more, cs) ← nextElement (index == 0) cs
    if more then
      let (set, cs) ← f.read depth cs
      s.readInOrder depth rest (index + 1) (set x) cs
    else .error (.wrongLength index s.sized)

/-- The members of an object, with the names of the fields that were met. -/
def readByName {α : Type} (s : Shape α) (depth : Nat) :
    Nat → Bool → List String → α → List Char → Except Fault ((List String × α) × List Char)
  | 0, _, _, _, _ => .error .endInObject
  | fuel + 1, first, seen, x, cs => do
    let (more, cs) ← nextKey first cs
    if more then
      let (key, cs) ← readString cs
      match s.fields.find? (·.name == key) with
      | some f =>
        if seen.contains key then .error (.duplicateField key)
        else
          let cs ← readColon cs
          let (set, cs) ← f.read depth cs
          s.readByName depth fuel false (key :: seen) (set x) cs
      | none =>
        let cs ← readColon cs
        let cs ← skipValue cs
        s.readByName depth fuel false seen x cs
    else pure ((seen, x), cs)

/-- The first required field that was not met. -/
def missing? {α : Type} (s : Shape α) (seen : List String) : Option String :=
  (s.fields.find? fun f => !f.optional && !seen.contains f.name).map (·.name)

/-- Reads a record in either form. -/
def read {α : Type} (s : Shape α) : Reader α := fun depth cs =>
  match skipBlanks cs with
  | [] => .error .endInValue
  | c :: rest =>
    if c = '[' then
      nested (fun depth cs => do
        let (x, cs) ← s.readInOrder depth s.fields 0 s.draft cs
        let cs ← endList cs
        pure (x, cs)) depth rest
    else if c = openBrace then
      nested (fun depth cs => do
        let ((seen, x), cs) ← s.readByName depth (cs.length + 1) true [] s.draft cs
        match s.missing? seen with
        | some name => .error (.missingField name)
        | none =>
          let cs ← endObject cs
          pure (x, cs)) depth rest
    else reportFound s.title (c :: rest)

end Shape

/-! ## Variants -/

/-- What a variant carries: nothing, one value, or fields. -/
inductive VariantBody (α : Type) where
  | unit (value : α)
  | single (read : Reader α)
  | fields (read : Reader α)

structure Variant (α : Type) where
  name : String
  body : VariantBody α

/-- The variant of a name. -/
def variantNamed {α : Type} (variants : List (Variant α)) (name : String) :
    Except Fault (VariantBody α) :=
  match variants.find? (·.name == name) with
  | some v => .ok v.body
  | none => .error (.unknownVariant name (variants.map (·.name)))

/-- Reads one of several variants. -/
def readVariant {α : Type} (variants : List (Variant α)) : Reader α := fun depth cs =>
  match skipBlanks cs with
  | [] => .error .endInValue
  | c :: rest =>
    if c = '"' then do
      let (name, rest) ← readString rest
      match ← variantNamed variants name with
      | .unit x => pure (x, rest)
      | .single _ => .error (.wrongType .unitVariant "newtype variant")
      | .fields _ => .error (.wrongType .unitVariant "struct variant")
    else if c = openBrace then
      nested (fun depth cs => do
        let (name, cs) ← readTextAs "variant identifier" depth cs
        let body ← variantNamed variants name
        let cs ← readColon cs
        let (x, cs) ← match body with
          | .unit x => mapRead (fun _ => x) readUnit depth cs
          | .single read => read depth cs
          | .fields read => read depth cs
        match skipBlanks cs with
        | [] => .error .endInObject
        | c :: rest => if c = closeBrace then pure (x, rest) else .error .expectedValue) depth rest
    else .error .expectedValue

end Outbox.Json
