import Printworks.Time.Instant
import Printworks.Decimal.Reading
import Printworks.Text.Blank
import Printworks.Json.Schema

/-!
# Reading points in time

A point in time is written as a date, a time of day and the distance from Greenwich. Blanks may
stand before each part, and numbers may leave out leading zeros.
-/

namespace Printworks.Instant

/-- Read a number of at most so many digits, after blanks. -/
def readNumber? (width : Nat) (cs : List Char) : Option (Nat × List Char) :=
  let cs := Text.trimStart cs
  let digits := (cs.take width).takeWhile isDigit
  if digits.isEmpty then none else some (digitsValue digits, cs.drop digits.length)

/-- Read a number of any size without blanks before it. -/
def readLong? (cs : List Char) : Option (Nat × List Char) :=
  let digits := cs.takeWhile isDigit
  if digits.isEmpty then none else some (digitsValue digits, cs.drop digits.length)

/-- Read a year: four digits, or a sign and any number of them. -/
def readYear? (cs : List Char) : Option (Int × List Char) :=
  match Text.trimStart cs with
  | '-' :: rest => (readLong? rest).map (fun (n, rest) => (-(n : Int), rest))
  | '+' :: rest => (readLong? rest).map (fun (n, rest) => ((n : Int), rest))
  | rest => (readNumber? 4 rest).map (fun (n, rest) => ((n : Int), rest))

/-- Drop a mark, after blanks. -/
def dropMark? (mark : Char) (cs : List Char) : Option (List Char) :=
  match Text.trimStart cs with
  | [] => none
  | c :: rest => if c = mark then some rest else none

/-- Read a date. -/
def readDate? (cs : List Char) : Option (Date × List Char) := do
  let (year, cs) ← readYear? cs
  let cs ← dropMark? '-' cs
  let (month, cs) ← readNumber? 2 cs
  let cs ← dropMark? '-' cs
  let (day, cs) ← readNumber? 2 cs
  let date ← Date.of? year month day
  return (date, cs)

/-- Read the fraction of a second, if there is one. Nine digits of it count. -/
def readFraction? (cs : List Char) : Option (Nat × List Char) :=
  match cs with
  | '.' :: rest =>
    let digits := (rest.take 9).takeWhile isDigit
    if digits.isEmpty then none
    else some (digitsValue digits * Nat.pow 10 (9 - digits.length), rest.dropWhile isDigit)
  | rest => some (0, rest)

/-- Read a time of day: the seconds since midnight, and the nanoseconds. The sixtieth second is an
inserted one. -/
def readTime? (cs : List Char) : Option (Nat × Nat × List Char) := do
  let (hour, cs) ← readNumber? 2 cs
  let cs ← dropMark? ':' cs
  let (minute, cs) ← readNumber? 2 cs
  let cs ← dropMark? ':' cs
  let (second, cs) ← readNumber? 2 cs
  let (nanos, cs) ← readFraction? cs
  if 23 < hour ∨ 59 < minute ∨ 60 < second then none
  else if second = 60 then return (hour * 3600 + minute * 60 + 59, nanos + secondNanos, cs)
  else return (hour * 3600 + minute * 60 + second, nanos, cs)

/-- Read exactly two digits. -/
def readPair? (cs : List Char) : Option (Nat × List Char) :=
  match cs with
  | a :: b :: rest =>
    if isDigit a && isDigit b then some (digitsValue [a, b], rest) else none
  | _ => none

/-- Read the hours and minutes of a distance from Greenwich, in seconds. A colon or blanks may
stand between the two. -/
def readDistance? (cs : List Char) : Option (Nat × List Char) := do
  let (hours, cs) ← readPair? cs
  let (minutes, cs) ← readPair? (cs.dropWhile (fun c => c == ':' || Text.isBlank c))
  if 59 < minutes ∨ 24 ≤ hours then none
  else return (hours * 3600 + minutes * 60, cs)

/-- Read a distance from Greenwich with its sign, or one of the names of no distance. -/
def readOffset? (cs : List Char) : Option (Int × List Char) :=
  match cs with
  | 'Z' :: rest => some (0, rest)
  | 'z' :: rest => some (0, rest)
  | '+' :: rest => (readDistance? rest).map (fun (n, rest) => ((n : Int), rest))
  | '-' :: rest => (readDistance? rest).map (fun (n, rest) => (-(n : Int), rest))
  | '−' :: rest => (readDistance? rest).map (fun (n, rest) => (-(n : Int), rest))
  | a :: b :: c :: rest =>
    if [a, b, c].map Char.toLower = ['u', 't', 'c'] then some (0, rest) else none
  | _ => none

/-- The instant that a text writes, with nothing but blanks after it. It has to lie in the calendar
where the day is that of Greenwich. -/
def read? (s : String) : Option Instant := do
  let (date, cs) ← readDate? s.toList
  let cs ← match cs with
    | 'T' :: rest => some rest
    | 't' :: rest => some rest
    | ' ' :: rest => some rest
    | _ => none
  let (secondOfDay, nanos, cs) ← readTime? cs
  let (offset, cs) ← readOffset? (Text.trimStart cs)
  let instant : Instant := ⟨date.toDays * daySeconds + secondOfDay - offset, nanos⟩
  if (Text.trimStart cs).isEmpty && instant.isInCalendar then return instant else none

def decode? (j : Json) : Option Instant := j.text?.bind read?

def encode (t : Instant) : Json := .text t.text

example : read? "2024-06-01T11:30:00.250+02:00" = some (ofMillis 1717234200250) := by decide +kernel
example : read? "2024-6-1 9:30:0Z" = some (ofMillis 1717234200000) := by decide +kernel
example : read? "yesterday" = none := by decide +kernel

end Printworks.Instant
