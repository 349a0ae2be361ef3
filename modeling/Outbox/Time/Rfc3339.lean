import Outbox.Time.Instant
import Outbox.Text.Blank

/-!
# Dates and times as text

An instant is written in UTC, `2024-01-02T03:04:05.678Z`, with no fraction or one of three, six or
nine digits, whichever suffices. Reading is more lenient: blanks may stand around the separators,
a space may stand for the `T`, and any whole offset of less than a day is accepted.
-/
namespace Outbox.Time

open Outbox.Text

/-- Why a text is no date and time. -/
inductive DateFault where
  | outOfRange
  | impossible
  | tooShort
  | tooLong
  | invalid
  deriving DecidableEq, Repr

namespace DateFault

def message : DateFault → String
  | .outOfRange => "input is out of range"
  | .impossible => "no possible date and time matching input"
  | .tooShort => "premature end of input"
  | .tooLong => "trailing input"
  | .invalid => "input contains invalid characters"

end DateFault

namespace Rfc3339

/-! ## Writing -/

/-- Decimal digits, filled with zeros to a width. -/
def padded (width n : Nat) : List Char :=
  let digits := Nat.toDigits 10 n
  List.replicate (width - digits.length) '0' ++ digits

/-- A year of four digits is plain; any other has a sign and at least four digits. -/
def renderYear (year : Int) : List Char :=
  if 0 ≤ year ∧ year ≤ 9999 then padded 4 year.toNat
  else (if year < 0 then '-' else '+') :: padded 4 year.natAbs

def renderFraction (nanos : Nat) : List Char :=
  if nanos = 0 then []
  else if nanos % 1000000 = 0 then '.' :: padded 3 (nanos / 1000000)
  else if nanos % 1000 = 0 then '.' :: padded 6 (nanos / 1000)
  else '.' :: padded 9 nanos

/-- The written form of an instant. A leap second is the sixtieth of its minute. -/
def render (t : Instant) : List Char :=
  let date := Date.ofDayNumber (t.seconds / Instant.secondsPerDay)
  let inDay := (t.seconds % Instant.secondsPerDay).toNat
  let leap := t.nanos / 1000000000
  renderYear date.year ++ '-' :: padded 2 date.month ++ '-' :: padded 2 date.day
    ++ 'T' :: padded 2 (inDay / 3600) ++ ':' :: padded 2 (inDay / 60 % 60)
    ++ ':' :: padded 2 (inDay % 60 + leap) ++ renderFraction (t.nanos % 1000000000) ++ ['Z']

/-! ## Reading -/

def isDigit (c : Char) : Bool := '0' ≤ c && c ≤ '9'

def digitValue (c : Char) : Nat := c.toNat - '0'.toNat

def skipBlanks (cs : List Char) : List Char := cs.dropWhile isBlank

/-- A number of at least one and at most `width` digits, below `2 ^ 63`. -/
def readNumber (width : Nat) (cs : List Char) : Except DateFault (Nat × List Char) :=
  match cs with
  | [] => .error .tooShort
  | c :: _ =>
    if !isDigit c then .error .invalid
    else
      let digits := (cs.take width).takeWhile isDigit
      let n := digits.foldl (fun n c => 10 * n + digitValue c) 0
      if n < UInt64.size / 2 then .ok (n, cs.drop digits.length) else .error .outOfRange

/-- A number after blanks, between two bounds. -/
def readField (width low high : Nat) (cs : List Char) : Except DateFault (Nat × List Char) := do
  let (n, rest) ← readNumber width (skipBlanks cs)
  if low ≤ n ∧ n ≤ high then pure (n, rest) else .error .outOfRange

/-- A year: four digits at most without a sign, any number with one. -/
def readYear (cs : List Char) : Except DateFault (Int × List Char) := do
  let (year, rest) ← match skipBlanks cs with
    | '-' :: rest => (readNumber rest.length rest).map fun (n, rest) => (-(n : Int), rest)
    | '+' :: rest => (readNumber rest.length rest).map fun (n, rest) => ((n : Int), rest)
    | cs => (readNumber 4 cs).map fun (n, rest) => ((n : Int), rest)
  if -2147483648 ≤ year ∧ year ≤ 2147483647 then pure (year, rest) else .error .outOfRange

/-- One given character after blanks. -/
def readMark (mark : Char) (cs : List Char) : Except DateFault (List Char) :=
  match skipBlanks cs with
  | [] => .error .tooShort
  | c :: rest => if c = mark then .ok rest else .error .invalid

/-- A fraction of a second in nanoseconds; digits after the ninth are passed over. -/
def readFraction (cs : List Char) : Except DateFault (Nat × List Char) :=
  match cs with
  | '.' :: rest => do
    let (n, after) ← readNumber 9 rest
    let width := rest.length - after.length
    pure (n * Nat.pow 10 (9 - width), after.dropWhile isDigit)
  | _ => .ok (0, cs)

/-- The next two characters; a pair needs two bytes at least. -/
def readPair (cs : List Char) : Except DateFault ((Char × Char) × List Char) :=
  match cs with
  | a :: b :: rest => .ok ((a, b), rest)
  | [a] => if a.utf8Size < 2 then .error .tooShort else .error .invalid
  | [] => .error .tooShort

/-- The minutes of an offset from UTC. -/
def readOffsetMinutes (cs : List Char) : Except DateFault (Nat × List Char) := do
  let ((a, b), rest) ← readPair cs
  if !isDigit a || !isDigit b then .error .invalid
  else if 6 ≤ digitValue a then .error .outOfRange
  else pure (digitValue a * 10 + digitValue b, rest)

/-- An offset from UTC in seconds: `Z`, `UTC`, or a sign, hours and minutes. -/
def readOffset (cs : List Char) : Except DateFault (Int × List Char) :=
  let utc := (cs.take 3).map Char.toUpper
  if utc = ['U', 'T', 'C'] then .ok (0, cs.drop 3)
  else
    let signed (sign : Int) (rest : List Char) : Except DateFault (Int × List Char) := do
      let ((a, b), rest) ← readPair rest
      if !isDigit a || !isDigit b then .error .invalid
      else
        let hours := digitValue a * 10 + digitValue b
        let (minutes, rest) ← readOffsetMinutes (rest.dropWhile fun c => c == ':' || isBlank c)
        pure (sign * (hours * 3600 + minutes * 60 : Nat), rest)
    match cs with
    | [] => .error .tooShort
    | c :: rest =>
      if c = 'Z' ∨ c = 'z' then .ok (0, rest)
      else if c = '+' then signed 1 rest
      else if c = '-' ∨ c = '−' then signed (-1) rest
      else .error .invalid

/-- The instant of a local date and time at an offset. -/
def resolve (date : Date) (secondOfDay nanos : Nat) (offset : Int) : Except DateFault Instant :=
  if !date.exists? then .error .outOfRange
  else
    let wall := date.dayNumber * Instant.secondsPerDay + secondOfDay
    if !Instant.inCalendar wall then .error .outOfRange
    else if Instant.secondsPerDay ≤ offset ∨ offset ≤ -Instant.secondsPerDay then
      .error .outOfRange
    else if !Instant.inCalendar (wall - offset) then .error .impossible
    else .ok ⟨wall - offset, nanos⟩

/-- Reads a date and time with its offset. -/
def read (s : String) : Except DateFault Instant := do
  let (year, cs) ← readYear s.toList
  let cs ← readMark '-' cs
  let (month, cs) ← readField 2 1 12 cs
  let cs ← readMark '-' cs
  let (day, cs) ← readField 2 1 31 cs
  let cs ← match cs with
    | [] => .error .tooShort
    | c :: rest => if c = 'T' ∨ c = 't' ∨ c = ' ' then .ok rest else .error .invalid
  let (hour, cs) ← readField 2 0 23 cs
  let cs ← readMark ':' cs
  let (minute, cs) ← readField 2 0 59 cs
  let cs ← readMark ':' cs
  let (second, cs) ← readField 2 0 60 cs
  let (fraction, cs) ← readFraction cs
  let (offset, cs) ← readOffset (skipBlanks cs)
  if !(skipBlanks cs).isEmpty then .error .tooLong
  else
    let leap := if second = 60 then 1 else 0
    resolve ⟨year, month, day⟩ (hour * 3600 + minute * 60 + (second - leap))
      (fraction + leap * 1000000000) offset

end Rfc3339

end Outbox.Time
