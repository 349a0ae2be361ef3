/-!
# Labels in ASCII

A label with characters beyond ASCII is written in ASCII: first its ASCII characters, then, after a
hyphen, where the others are inserted, in the order of their code points. Every insertion is a
number of digits of which the first ones weigh little; the last digit of a number is one below a
threshold that adapts to the numbers seen so far.
-/
namespace Outbox.Url.Punycode

/-- Digits are letters and then decimal digits. -/
def base : Nat := 36

/-- Numbers are words of 32 bits. -/
def limit : Nat := UInt32.size

/-- The code point at which the insertions begin. -/
def initialCode : Nat := 0x80

def initialBias : Nat := 72

/-- Scales a number down until it is at most 455, and counts the divisions. -/
def scaleDown : Nat → Nat → Nat → Nat × Nat
  | 0, delta, k => (delta, k)
  | steps + 1, delta, k =>
    if 455 < delta then scaleDown steps (delta / 35) (k + base) else (delta, k)

/-- The next bias after a number; `count` is the length of the label with the insertion. -/
def adapt (delta count : Nat) (isFirst : Bool) : Nat :=
  let delta := if isFirst then delta / 700 else delta / 2
  let (delta, k) := scaleDown 32 (delta + delta / count) 0
  k + base * delta / (delta + 38)

/-- The threshold of the digit at a position; positions count in steps of the base. -/
def threshold (bias k : Nat) : Nat :=
  if k ≤ bias + 1 then 1 else if bias + 26 ≤ k then 26 else k - bias

def digitValue? (c : Char) : Option Nat :=
  if 'a' ≤ c ∧ c ≤ 'z' then some (c.toNat - 'a'.toNat)
  else if 'A' ≤ c ∧ c ≤ 'Z' then some (c.toNat - 'A'.toNat)
  else if '0' ≤ c ∧ c ≤ '9' then some (c.toNat - '0'.toNat + 26)
  else none

def digitChar (d : Nat) : Char :=
  Char.ofNat (if d < 26 then 'a'.toNat + d else '0'.toNat + (d - 26))

/-! ## Reading -/

/-- Adds the digits of a number to `i`; the rest follows the number. -/
def readNumber (bias : Nat) : Nat → Nat → Nat → List Char → Option (Nat × List Char)
  | _, _, _, [] => none
  | i, weight, k, c :: rest =>
    match digitValue? c with
    | none => none
    | some d =>
      let i := i + d * weight
      let t := threshold bias k
      let weight' := weight * (base - t)
      if limit ≤ i then none
      else if d < t then some (i, rest)
      else if limit ≤ weight' then none
      else readNumber bias i weight' (k + base) rest

/-- Where the reading of insertions stands. -/
structure Reading where
  label : List Char
  code : Nat
  position : Nat
  bias : Nat

/-- Reads all insertions; each takes a digit at least. -/
def readInsertions : Nat → Reading → List Char → Option (List Char)
  | _, s, [] => some s.label
  | 0, _, _ => none
  | fuel + 1, s, cs =>
    match readNumber s.bias s.position 1 base cs with
    | none => none
    | some (i, rest) =>
      let count := s.label.length + 1
      let code := s.code + i / count
      let position := i % count
      if 0x10ffff < code ∨ (0xd800 ≤ code ∧ code < 0xe000) then none
      else
        readInsertions fuel
          { label := s.label.take position ++ Char.ofNat code :: s.label.drop position
            code := code
            position := position + 1
            bias := adapt (i - s.position) count (s.position == 0) } rest

/-- The label that is written in ASCII; a hyphen at the very start separates nothing. -/
def decode? (cs : List Char) : Option (List Char) :=
  let digits := (cs.reverse.takeWhile (· ≠ '-')).reverse
  let plain := cs.take (cs.length - digits.length - 1)
  if cs.any (fun c => 0x80 ≤ c.toNat) then none
  else
    let digits := if plain.isEmpty then cs else digits
    readInsertions digits.length ⟨plain, initialCode, 0, initialBias⟩ digits

/-! ## Writing -/

/-- The digits of a number. -/
def writeNumber (bias : Nat) : Nat → Nat → Nat → List Char
  | 0, _, _ => []
  | fuel + 1, n, k =>
    let t := threshold bias k
    if n < t then [digitChar n]
    else
      digitChar (t + (n - t) % (base - t)) ::
        writeNumber bias fuel ((n - t) / (base - t)) (k + base)

/-- Where the writing of insertions stands. -/
structure Writing where
  digits : List Char
  delta : Nat
  handled : Nat
  bias : Nat
  isFirst : Bool

/-- Goes over the label once for the insertions of one code point. -/
def writeCode (label : List Char) (code : Nat) (s : Writing) : Writing :=
  label.foldl (fun s c =>
    if c.toNat < code then { s with delta := s.delta + 1 }
    else if c.toNat = code then
      { digits := s.digits ++ writeNumber s.bias (s.delta + 1) s.delta base
        delta := 0
        handled := s.handled + 1
        bias := adapt s.delta (s.handled + 1) s.isFirst
        isFirst := false }
    else s) s

/-- The code points beyond ASCII in ascending order, each once. -/
def insertedCodes (label : List Char) : List Nat :=
  let codes := (label.filter fun c => 0x80 ≤ c.toNat).map Char.toNat
  (codes.mergeSort fun a b => a ≤ b).eraseDups

/-- Writes a label in ASCII. -/
def encode (label : List Char) : List Char :=
  let plain := label.filter fun c => c.toNat < 0x80
  let start : Writing := ⟨[], 0, plain.length, initialBias, true⟩
  let (s, _) := (insertedCodes label).foldl (fun ((s : Writing), previous) code =>
    let s := { s with delta := s.delta + (code - previous) * (s.handled + 1) }
    let s := writeCode label code s
    ({ s with delta := s.delta + 1 }, code + 1)) (start, initialCode)
  if plain.isEmpty then s.digits else plain ++ '-' :: s.digits

end Outbox.Url.Punycode
