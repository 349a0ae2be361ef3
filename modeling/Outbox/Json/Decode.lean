import Outbox.Json.Fault

/-!
# Values as data of one kind

A stored payload is a JSON value; a caller that knows what it holds asks for it as a number, a
text, a list or a record. The answer is the value in its plain form: a record keeps its own
members only.
-/
namespace Outbox.Json

/-- Converts a value, or says what it found in its place. -/
abbrev Decoder := Json → Except Fault Json

/-- What a value is, for messages. -/
def found : Json → Found
  | .null => .null
  | .bool b => .bool b
  | .num (.real x) => .real x
  | .num (.nat n) => .integer n.val
  | .num (.negSucc n) => .integer (.negSucc n.val)
  | .str s => .text s
  | .arr _ => .sequence
  | .obj _ => .map

/-- An integer from `low` up to, but not including, `high`. -/
def asInteger (low high : Int) (expected : String) : Decoder := fun v =>
  match v with
  | .num n =>
    match n.toInt? with
    | some i => if low ≤ i ∧ i < high then .ok v else .error (.wrongValue (.integer i) expected)
    | none => .error (.wrongType v.found expected)
  | _ => .error (.wrongType v.found expected)

def asNat32 : Decoder := asInteger 0 UInt32.size "u32"
def asInt8 : Decoder := asInteger (-128) 128 "i8"

def asBool : Decoder
  | .bool b => .ok (.bool b)
  | v => .error (.wrongType v.found "a boolean")

def asText : Decoder
  | .str s => .ok (.str s)
  | v => .error (.wrongType v.found "a string")

def asList (element : Decoder) : Decoder
  | .arr xs => (xs.mapM element).map .arr
  | v => .error (.wrongType v.found "a sequence")

/-- A record of required fields, from an object or from the list of its fields in order. -/
def asRecord (title : String) (fields : List (String × Decoder)) : Decoder
  | .arr xs =>
    let n := fields.length
    let sized := title ++ " with " ++ toString n ++ (if n = 1 then " element" else " elements")
    let rec inOrder : List (String × Decoder) → Nat → List Json →
        Except Fault (List (String × Json))
      | [], _, [] => .ok []
      | [], _, _ :: _ => .error (.wrongLength xs.length "fewer elements in array")
      | _ :: _, index, [] => .error (.wrongLength index sized)
      | (name, decode) :: rest, index, x :: xs => do
        let x ← decode x
        let members ← inOrder rest (index + 1) xs
        pure ((name, x) :: members)
    (inOrder fields 0 xs).map ofMembers
  | .obj ms => do
    let known ← ms.filterMapM fun (key, value) =>
      match fields.lookup key with
      | some decode => (decode value).map fun x => some (key, x)
      | none => .ok none
    match fields.find? fun (name, _) => (known.lookup name).isNone with
    | some (name, _) => .error (.missingField name)
    | none => pure (ofMembers known)
  | v => .error (.wrongType v.found title)

end Outbox.Json
