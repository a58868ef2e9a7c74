import Printworks.Time.Calendar

/-!
# Points in time

An instant is a number of seconds since the first day of 1970 and a number of nanoseconds. A second
that is inserted at the end of a minute has the number of the one before it, and a thousand million
nanoseconds more.
-/

namespace Printworks

structure Instant where
  seconds : Int
  nanos : Nat
  deriving DecidableEq, Inhabited

namespace Instant

def daySeconds : Int := 86400

def secondNanos : Nat := 1000000000

def milliNanos : Nat := 1000000

/-- The first millisecond that an instant can be read from. -/
def minMillis : Int := -8334601228800000

/-- The last millisecond that an instant can be read from. -/
def maxMillis : Int := 8210266876799999

def ofMillis (ms : Int) : Instant := ⟨ms / 1000, (ms % 1000).toNat * milliNanos⟩

/-- The instant of a number of milliseconds, if it lies in the calendar. -/
def ofMillis? (ms : Int) : Option Instant :=
  if minMillis ≤ ms ∧ ms ≤ maxMillis then some (ofMillis ms) else none

/-- Whether the second of an instant lies in the calendar. -/
def isInCalendar (t : Instant) : Bool :=
  decide (minMillis / 1000 ≤ t.seconds ∧ t.seconds ≤ maxMillis / 1000)

def millis (t : Instant) : Int := t.seconds * 1000 + (t.nanos / milliNanos : Nat)

def nanosUntil (t later : Instant) : Int :=
  (later.seconds - t.seconds) * secondNanos + ((later.nanos : Int) - t.nanos)

def date (t : Instant) : Date := Date.ofDays (t.seconds / daySeconds)

/-- A number in decimal, with zeros in front up to a width. -/
def padded (width n : Nat) : String :=
  let digits := Nat.toDigits 10 n
  String.ofList (List.replicate (width - digits.length) '0' ++ digits)

/-- A year in four digits, or with a sign if it has none or more. -/
def yearText (year : Int) : String :=
  if 0 ≤ year ∧ year ≤ 9999 then padded 4 year.toNat
  else (if year < 0 then "-" else "+") ++ padded 4 year.natAbs

def dateText (d : Date) : String :=
  yearText d.year ++ "-" ++ padded 2 d.month ++ "-" ++ padded 2 d.day

/-- The fraction of a second in three, six or nine digits, whichever is enough, or nothing. -/
def fractionText (nanos : Nat) : String :=
  if nanos = 0 then ""
  else if nanos % milliNanos = 0 then "." ++ padded 3 (nanos / milliNanos)
  else if nanos % 1000 = 0 then "." ++ padded 6 (nanos / 1000)
  else "." ++ padded 9 nanos

/-- The text of an instant: date and time of day, which is that of Greenwich. -/
def text (t : Instant) : String :=
  let secondOfDay := (t.seconds % daySeconds).toNat
  let inserted := t.nanos / secondNanos
  dateText t.date ++ "T" ++ padded 2 (secondOfDay / 3600) ++ ":" ++
    padded 2 (secondOfDay / 60 % 60) ++ ":" ++ padded 2 (secondOfDay % 60 + inserted) ++
    fractionText (t.nanos % secondNanos) ++ "Z"

example : (ofMillis 1717234200250).text = "2024-06-01T09:30:00.250Z" := by decide +kernel
example : (ofMillis (-1)).text = "1969-12-31T23:59:59.999Z" := by decide +kernel

end Instant

end Printworks
