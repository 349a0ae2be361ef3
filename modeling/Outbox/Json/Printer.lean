import Outbox.Json.Value

/-!
# Writing JSON

The written form has no blanks. A text escapes the quote, the backslash and the control characters
below the space, which have a letter or else a code of four hexadecimal digits; every other
character stands for itself. A double is written by the shortest decimal that reads back.
-/
namespace Outbox.Json

open Outbox.Number

/-- Doubles are positional while the leading digit stands between `1e-5` and `1e15`. -/
def numberLayout : DecimalLayout where
  lowestPositional := -5
  highestPositional := 15
  plusSign := true

/-- Four lower-case hexadecimal digits. -/
def fourHex (n : Nat) : List Char :=
  let digit (k : Nat) : Char := ((Nat.toDigits 16 (n >>> (4 * k) % 16)).head?).getD '0'
  [digit 3, digit 2, digit 1, digit 0]

/-- One character of a text. -/
def escapeChar (c : Char) : List Char :=
  if c = '"' then ['\\', '"']
  else if c = '\\' then ['\\', '\\']
  else if 0x20 ≤ c.toNat then [c]
  else if c = '\x08' then ['\\', 'b']
  else if c = '\x0c' then ['\\', 'f']
  else if c = '\n' then ['\\', 'n']
  else if c = '\r' then ['\\', 'r']
  else if c = '\t' then ['\\', 't']
  else '\\' :: 'u' :: fourHex c.toNat

/-- A text in quotes. -/
def renderString (s : String) : List Char :=
  '"' :: s.toList.flatMap escapeChar ++ ['"']

def Number.render : Number → List Char
  | .nat n => Nat.toDigits 10 n.val
  | .negSucc n => '-' :: Nat.toDigits 10 (n.val + 1)
  | .real x => x.render numberLayout

/-- Parts in order, a separator between each two. -/
def joinWith (separator : List Char) : List (List Char) → List Char
  | [] => []
  | [part] => part
  | part :: rest => part ++ separator ++ joinWith separator rest

mutual

/-- The characters of a value. -/
def render : Json → List Char
  | .null => "null".toList
  | .bool true => "true".toList
  | .bool false => "false".toList
  | .num n => n.render
  | .str s => renderString s
  | .arr xs => '[' :: joinWith [','] (renderElements xs) ++ [']']
  | .obj ms => Char.ofNat 0x7b :: joinWith [','] (renderMembers ms) ++ [Char.ofNat 0x7d]

def renderElements : List Json → List (List Char)
  | [] => []
  | x :: rest => render x :: renderElements rest

def renderMembers : List (String × Json) → List (List Char)
  | [] => []
  | (k, v) :: rest => (renderString k ++ ':' :: render v) :: renderMembers rest

end

/-- The text of a value. -/
def text (v : Json) : String := String.ofList v.render

/-- Members in a fixed order, as records are written. -/
def renderRecord (fields : List (String × List Char)) : List Char :=
  Char.ofNat 0x7b ::
    joinWith [','] (fields.map fun (name, value) => renderString name ++ ':' :: value)
      ++ [Char.ofNat 0x7d]

end Outbox.Json
