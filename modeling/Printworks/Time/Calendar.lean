/-!
# The calendar

Days of the Gregorian calendar, carried on without end in both directions, and their numbers
counted from the first day of 1970. Counting goes by years that begin in March, so that the leap
day is the last of its year, and by eras of four hundred years, which all have the same length.
-/

namespace Printworks

structure Date where
  year : Int
  month : Nat
  day : Nat
  deriving DecidableEq, Inhabited

namespace Date

def eraDays : Int := 146097

/-- The number of the first day of March of the year zero, counted from 1970. -/
def eraStart : Int := -719468

/-- Whether a year has a leap day. -/
def isLeap (year : Int) : Bool := year % 4 == 0 && (year % 100 != 0 || year % 400 == 0)

def monthDays (year : Int) (month : Nat) : Nat :=
  match month with
  | 2 => if isLeap year then 29 else 28
  | 4 => 30
  | 6 => 30
  | 9 => 30
  | 11 => 30
  | _ => 31

/-- The first year that a date may have. -/
def minYear : Int := -262143

/-- The last year that a date may have. -/
def maxYear : Int := 262142

/-- The date of a year, a month and a day, if there is one. -/
def of? (year : Int) (month day : Nat) : Option Date :=
  if minYear ≤ year ∧ year ≤ maxYear ∧ 1 ≤ month ∧ month ≤ 12 ∧ 1 ≤ day ∧ day ≤ monthDays year month
  then some ⟨year, month, day⟩ else none

/-- How many days lie before a month of a year that begins in March. -/
def daysBefore (marchMonth : Int) : Int := (153 * marchMonth + 2) / 5

/-- The number of a day, counted from the first day of 1970. -/
def toDays (d : Date) : Int :=
  let year := if d.month ≤ 2 then d.year - 1 else d.year
  let marchMonth : Int := if d.month ≤ 2 then d.month + 9 else d.month - 3
  let yearOfEra := year % 400
  let dayOfYear := daysBefore marchMonth + d.day - 1
  year / 400 * eraDays + yearOfEra * 365 + yearOfEra / 4 - yearOfEra / 100 + dayOfYear + eraStart

/-- The day of a number. -/
def ofDays (n : Int) : Date :=
  let days := n - eraStart
  let dayOfEra := days % eraDays
  let yearOfEra := (dayOfEra - dayOfEra / 1460 + dayOfEra / 36524 - dayOfEra / 146096) / 365
  let dayOfYear := dayOfEra - (365 * yearOfEra + yearOfEra / 4 - yearOfEra / 100)
  let marchMonth := (5 * dayOfYear + 2) / 153
  let month := if marchMonth < 10 then marchMonth + 3 else marchMonth - 9
  let year := yearOfEra + days / eraDays * 400
  ⟨if month ≤ 2 then year + 1 else year, month.toNat,
    (dayOfYear - daysBefore marchMonth + 1).toNat⟩

example : ofDays 0 = ⟨1970, 1, 1⟩ := by decide
example : ofDays 19875 = ⟨2024, 6, 1⟩ := by decide
example : (⟨2024, 2, 29⟩ : Date).toDays = 19782 := by decide

end Date

end Printworks
