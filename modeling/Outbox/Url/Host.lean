import Outbox.Text.Ranges
import Outbox.Text.Quoted
import Outbox.Text.Split

/-!
# Hosts

A host is a domain, or a number of 32 or 128 bits in one of its many spellings. The number of 32
bits is written in four decimal parts; the other one in eight hexadecimal pieces, of which the
first longest run of two zeros or more is left out.
-/
namespace Outbox.Url

/-- Why a text is no address. -/
inductive Fault where
  | emptyHost
  | invalidDomain
  | invalidPort
  | invalidIpv4
  | invalidIpv6
  | invalidCharacter
  | noBase
  deriving DecidableEq, Repr

namespace Fault

def message : Fault → String
  | .emptyHost => "empty host"
  | .invalidDomain => "invalid international domain name"
  | .invalidPort => "invalid port number"
  | .invalidIpv4 => "invalid IPv4 address"
  | .invalidIpv6 => "invalid IPv6 address"
  | .invalidCharacter => "invalid domain character"
  | .noBase => "relative URL without a base"

end Fault

inductive Host where
  | domain (name : List Char)
  | ipv4 (address : Nat)
  | ipv6 (pieces : List Nat)
  deriving DecidableEq

/-! ## Four decimal parts -/

def isDigit (c : Char) : Bool := '0' ≤ c && c ≤ '9'

/-- A part of a number: decimal, octal after `0`, or hexadecimal after `0x`. -/
def ipv4Part? (part : List Char) : Option Nat :=
  let inBase (base : Nat) (digits : List Char) : Option Nat :=
    digits.foldl (fun n c => match n, Text.hexValue? c with
      | some n, some d => if d < base then some (base * n + d) else none
      | _, _ => none) (some 0)
  match part with
  | [] => none
  | '0' :: 'x' :: digits => inBase 16 digits
  | '0' :: 'X' :: digits => inBase 16 digits
  | '0' :: d :: digits => inBase 8 (d :: digits)
  | digits => inBase 10 digits

/-- Whether the last part of a domain, an empty one at the end aside, is a number. -/
def endsInNumber (cs : List Char) : Bool :=
  let last? := match (Text.splitOn '.' cs).reverse with
    | [] => none
    | [] :: rest => rest.head?
    | last :: _ => some last
  match last? with
  | none => false
  | some last => (!last.isEmpty && last.all isDigit) || (ipv4Part? last).isSome

/-- Reads a number of 32 bits: all parts but the last are bytes, the last one fills the rest. -/
def parseIpv4 (cs : List Char) : Except Fault Nat :=
  let parts := Text.splitOn '.' cs
  let parts := if parts.getLast? == some [] then parts.dropLast else parts
  if 4 < parts.length then .error .invalidIpv4
  else
    match parts.mapM ipv4Part? with
    | none => .error .invalidIpv4
    | some numbers =>
      let bytes := numbers.dropLast
      let last := numbers.getLastD 0
      if bytes.any (255 < ·) || 1 <<< (32 - 8 * bytes.length) ≤ last then .error .invalidIpv4
      else
        let high := bytes.foldl (fun n b => 256 * n + b) 0
        .ok (high <<< (32 - 8 * bytes.length) + last)

def renderIpv4 (address : Nat) : List Char :=
  let part (shift : Nat) : List Char := Nat.toDigits 10 (address >>> shift % 256)
  part 24 ++ '.' :: part 16 ++ '.' :: part 8 ++ '.' :: part 0

/-! ## Eight hexadecimal pieces -/

/-- Four decimal parts at the end of the pieces, as two pieces. -/
def ipv6Tail? (cs : List Char) : Option (List Nat) :=
  let byte? (part : List Char) : Option Nat :=
    if part.isEmpty || !part.all isDigit then none
    else if part.head? == some '0' && 1 < part.length then none
    else
      let n := part.foldl (fun n c => 10 * n + (c.toNat - '0'.toNat)) 0
      if 255 < n then none else some n
  match (Text.splitOn '.' cs).mapM byte? with
  | some [a, b, c, d] => some [256 * a + b, 256 * c + d]
  | _ => none

/-- Up to four hexadecimal digits. -/
def takeHex (cs : List Char) : List Char := (cs.take 4).takeWhile fun c => (Text.hexValue? c).isSome

/-- The pieces so far, and where among them the zeros were left out. -/
structure Ipv6State where
  pieces : List Nat
  gap : Option Nat

/-- Reads the pieces one after another; every step but the last takes a character. -/
def ipv6Pieces : Nat → Ipv6State → List Char → Option Ipv6State
  | _, s, [] => some s
  | 0, _, _ => none
  | fuel + 1, s, cs =>
    if s.pieces.length = 8 then none
    else
      match cs with
      | ':' :: rest =>
        if s.gap.isSome then none
        else ipv6Pieces fuel ⟨s.pieces ++ [0], some (s.pieces.length + 1)⟩ rest
      | _ =>
        let digits := takeHex cs
        match cs.drop digits.length with
        | [] => some { s with pieces := s.pieces ++ [Text.hexNat digits] }
        | '.' :: _ =>
          if digits.isEmpty || 6 < s.pieces.length then none
          else (ipv6Tail? cs).map fun tail => { s with pieces := s.pieces ++ tail }
        | ':' :: rest =>
          if rest.isEmpty then none
          else ipv6Pieces fuel { s with pieces := s.pieces ++ [Text.hexNat digits] } rest
        | _ => none

/-- Reads eight pieces, or fewer around a gap that zeros fill. -/
def parseIpv6 (cs : List Char) : Except Fault (List Nat) :=
  let state? := match cs with
    | ':' :: ':' :: rest => ipv6Pieces (rest.length + 1) ⟨[0], some 1⟩ rest
    | ':' :: _ => none
    | [] => none
    | [_] => none
    | cs => ipv6Pieces (cs.length + 1) ⟨[], none⟩ cs
  match state? with
  | none => .error .invalidIpv6
  | some s =>
    match s.gap with
    | some gap =>
      let before := s.pieces.take gap
      let after := s.pieces.drop gap
      .ok (before ++ List.replicate (8 - s.pieces.length) 0 ++ after)
    | none => if s.pieces.length = 8 then .ok s.pieces else .error .invalidIpv6

/-- The length of the run of zeros that a list starts with. -/
def zeroRun (pieces : List Nat) : Nat := (pieces.takeWhile (· == 0)).length

/-- The start and the length of the first longest run of zeros. -/
def longestZeroRun (pieces : List Nat) : Nat × Nat :=
  (List.range pieces.length).foldl (fun best start =>
    let n := zeroRun (pieces.drop start)
    if best.2 < n then (start, n) else best) (0, 0)

def renderIpv6 (pieces : List Nat) : List Char :=
  let join (ps : List Nat) : List Char :=
    (ps.map Text.hexDigits).foldr (fun part text =>
      if text.isEmpty then part else part ++ ':' :: text) []
  let (start, length) := longestZeroRun pieces
  if length < 2 then join pieces
  else join (pieces.take start) ++ ':' :: ':' :: join (pieces.drop (start + length))

namespace Host

def render : Host → List Char
  | domain name => name
  | ipv4 address => renderIpv4 address
  | ipv6 pieces => '[' :: renderIpv6 pieces ++ [']']

end Host

end Outbox.Url
