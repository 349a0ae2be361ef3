import Outbox.Text.Ranges

/-!
# Percent-encoding

A byte that may not stand for itself is written as `%` and two hexadecimal digits. Which ASCII
characters are affected depends on the part of the address; other characters always are, byte by
byte.
-/
namespace Outbox.Url

/-- The bytes of a character in UTF-8. -/
def utf8 (c : Char) : List UInt8 := c.toString.toUTF8.toList

/-- The bytes of a text in UTF-8. -/
def utf8Bytes (cs : List Char) : List UInt8 := cs.flatMap utf8

/-- The text of bytes in UTF-8, if they are that. -/
def ofUtf8? (bytes : List UInt8) : Option (List Char) :=
  (String.fromUTF8? ⟨bytes.toArray⟩).map (·.toList)

/-- An upper-case hexadecimal digit. -/
def upperHexDigit (n : Nat) : Char :=
  if n < 10 then Char.ofNat ('0'.toNat + n) else Char.ofNat ('A'.toNat + (n - 10))

def encodeByte (b : UInt8) : List Char :=
  ['%', upperHexDigit (b.toNat / 16), upperHexDigit (b.toNat % 16)]

/-- A set of ASCII characters that are encoded. -/
abbrev EncodeSet := Char → Bool

/-- Control characters. -/
def controls : EncodeSet := fun c => c.toNat < 0x20 || c.toNat == 0x7f

def fragmentSet : EncodeSet := fun c =>
  controls c || [' ', '"', '<', '>', Char.ofNat 0x60].contains c

def querySet : EncodeSet := fun c => controls c || [' ', '"', '#', '<', '>'].contains c

/-- Web addresses also encode the apostrophe of a query. -/
def specialQuerySet : EncodeSet := fun c => querySet c || c.toNat == 0x27

def pathSet : EncodeSet := fun c =>
  fragmentSet c || ['#', '?', Char.ofNat 0x7b, Char.ofNat 0x7d].contains c

def userinfoSet : EncodeSet := fun c =>
  pathSet c || ['/', ':', ';', '=', '@', '[', '\\', ']', '^', '|'].contains c

/-- A single segment also encodes what would end it, and the percent sign itself. -/
def segmentSet : EncodeSet := fun c => pathSet c || c == '/' || c == '%'

/-- In web addresses the backslash ends a segment too. -/
def specialSegmentSet : EncodeSet := fun c => segmentSet c || c == '\\'

/-- One character. -/
def encodeChar (set : EncodeSet) (c : Char) : List Char :=
  if c.toNat < 0x80 && !set c then [c] else (utf8 c).flatMap encodeByte

def encode (set : EncodeSet) (cs : List Char) : List Char := cs.flatMap (encodeChar set)

/-- The bytes that a text stands for; a percent sign without two digits is itself. -/
def decode : List Char → List UInt8
  | [] => []
  | '%' :: a :: b :: rest =>
    match Text.hexValue? a, Text.hexValue? b with
    | some x, some y => (16 * x + y).toUInt8 :: decode rest
    | _, _ => 0x25 :: decode (a :: b :: rest)
  | c :: rest => utf8 c ++ decode rest

end Outbox.Url
