import Printworks.Decimal.Double

/-!
# The shortest decimal of a double

The reals that round to a finite double form an interval. For one digit, two digits and so on up to
seventeen, the double's two neighbours on that decimal grid are tested against the interval; the
first grid with a hit gives the number of digits, and of two hits the nearer one is taken. Of two
that are equally near, a rule of the format takes one.
-/

namespace Printworks

structure Decimal where
  digits : Nat
  exponent : Int
  deriving DecidableEq, Inhabited

namespace Decimal

/-- `10 ^ e` for a natural exponent and 1 for a negative one. -/
def tenPow (e : Int) : Nat := Nat.pow 10 e.toNat

/-- Which of two digits is taken when both are equally near. -/
inductive Tie where
  | toEven
  | up
  deriving DecidableEq, Inhabited

/-- Drop zeros at the end of the digits, at most as many as given. -/
def dropZeros (fuel : Nat) (d : Decimal) : Decimal :=
  match fuel with
  | 0 => d
  | fuel + 1 =>
    if d.digits ≠ 0 ∧ d.digits % 10 = 0 then dropZeros fuel ⟨d.digits / 10, d.exponent + 1⟩ else d

end Decimal

namespace Double

/-- The interval of the reals that round to a double: its value and its ends, as numerators over
one denominator, and whether the ends belong to it. -/
structure Interval where
  low : Nat
  value : Nat
  high : Nat
  den : Nat
  closed : Bool

/-- The reals that round to a finite double, up to their sign. -/
def interval (d : Double) : Interval :=
  let m := d.significand
  let up := twoPow (d.scale - 2)
  -- Below a power of two the patterns lie half as far apart as above it.
  let below := if d.fractionField = 0 ∧ 1 < d.exponentField then 1 else 2
  { low := (4 * m - below) * up
    value := 4 * m * up
    high := (4 * m + 2) * up
    den := twoPow (2 - d.scale)
    closed := m % 2 == 0 }

/-- Whether `c · 10 ^ k` lies in the interval. -/
def Interval.holds (i : Interval) (k : Int) (c : Nat) : Bool :=
  let x := c * (i.den * Decimal.tenPow k)
  let low := i.low * Decimal.tenPow (-k)
  let high := i.high * Decimal.tenPow (-k)
  if i.closed then decide (low ≤ x ∧ x ≤ high) else decide (low < x ∧ x < high)

/-- The nearest point of the grid of multiples of `10 ^ k` that lies in the interval, if one of the
value's two neighbours does. -/
def Interval.onGrid? (tie : Decimal.Tie) (i : Interval) (k : Int) : Option Nat :=
  let num := i.value * Decimal.tenPow (-k)
  let den := i.den * Decimal.tenPow k
  let c := num / den
  match i.holds k c, i.holds k (c + 1) with
  | true, true =>
    let twice := 2 * (num % den)
    some (if den < twice ∨ (twice = den ∧ (tie = .up ∨ c % 2 = 1)) then c + 1 else c)
  | true, false => some c
  | false, true => some (c + 1)
  | false, false => none

/-- The exponent of the first decimal digit of `value / den`. -/
def Interval.leadingExponent (i : Interval) : Int :=
  -- The decimal logarithm of two is close to 0.30103, so the guess is off by one at most.
  let guess := ((Nat.log2 i.value : Int) - Nat.log2 i.den) * 30103 / 100000
  let atLeast (e : Int) : Bool :=
    decide (i.den * Decimal.tenPow e ≤ i.value * Decimal.tenPow (-e))
  if atLeast (guess + 1) then guess + 1
  else if atLeast guess then guess
  else guess - 1

/-- The first grid with a hit, from the given number of digits on. -/
def Interval.shortestFrom (tie : Decimal.Tie) (i : Interval) (lead : Int) (fuel digits : Nat) :
    Decimal :=
  let k := lead + 1 - digits
  match fuel with
  | 0 => ⟨i.value * Decimal.tenPow (-k) / (i.den * Decimal.tenPow k), k⟩
  | fuel + 1 =>
    match i.onGrid? tie k with
    | some c => ⟨c, k⟩
    | none => shortestFrom tie i lead fuel (digits + 1)

/-- The decimal with the fewest digits that rounds to a finite double, up to its sign. -/
def shortest (tie : Decimal.Tie) (d : Double) : Decimal :=
  if d.isZero then ⟨0, 0⟩
  else
    let i := d.interval
    (i.shortestFrom tie i.leadingExponent 17 1).dropZeros 20

end Double

end Printworks
