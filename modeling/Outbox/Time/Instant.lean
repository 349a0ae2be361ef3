import Outbox.Time.Calendar

/-!
# Instants

A point in time is a count of whole seconds since 1970 and nanoseconds after them. A leap second
is the second that it follows with a billion nanoseconds or more. The calendar covers the years
from -262143 to 262142; storage keeps milliseconds, so writing truncates an instant downwards, and
reading a count outside the calendar gives the start of 1970.
-/
namespace Outbox.Time

structure Instant where
  seconds : Int
  nanos : Nat
  deriving DecidableEq, Repr

namespace Instant

def epoch : Instant := ⟨0, 0⟩

instance : Inhabited Instant := ⟨epoch⟩

def secondsPerDay : Int := 86400

/-- The first second of the calendar. -/
def firstSecond : Int := (Date.dayNumber ⟨-262143, 1, 1⟩) * secondsPerDay

/-- The last second of the calendar. -/
def lastSecond : Int := (Date.dayNumber ⟨262142, 12, 31⟩) * secondsPerDay + 86399

/-- Whether the calendar covers the second. -/
def inCalendar (seconds : Int) : Bool := firstSecond ≤ seconds && seconds ≤ lastSecond

/-- Milliseconds since 1970, rounded down. -/
def toMillis (t : Instant) : Int := t.seconds * 1000 + (t.nanos / 1000000 : Nat)

/-- The instant of a count of milliseconds; outside the calendar the start of 1970. -/
def ofMillis (ms : Int) : Instant :=
  if inCalendar (ms / 1000) then ⟨ms / 1000, (ms % 1000).toNat * 1000000⟩ else epoch

/-- Order in time. -/
def isBefore (s t : Instant) : Bool :=
  s.seconds < t.seconds || (s.seconds == t.seconds && s.nanos < t.nanos)

/-- A length of time that is not negative. -/
structure Span where
  seconds : Nat
  nanos : Nat
  deriving DecidableEq, Repr

namespace Span

def ofMillis (ms : Nat) : Span := ⟨ms / 1000, ms % 1000 * 1000000⟩

/-- The longest span counts as many milliseconds as a signed 64-bit word. -/
def isCountable (s : Span) : Bool :=
  s.seconds < 9223372036854775 || (s.seconds == 9223372036854775 && s.nanos ≤ 807000000)

end Span

/-- The instant a span later, in the calendar or not. It is meant for an instant of a clock, and no
clock gives one inside a leap second, where nanoseconds are not carried before that second is
over. -/
def sum (t : Instant) (s : Span) : Instant :=
  let nanos := t.nanos + s.nanos
  ⟨t.seconds + s.seconds + (nanos / 1000000000 : Nat), nanos % 1000000000⟩

/-- The instant a span later, if the calendar covers it. -/
def add? (t : Instant) (s : Span) : Option Instant :=
  if inCalendar (t.sum s).seconds then some (t.sum s) else none

end Instant

end Outbox.Time
