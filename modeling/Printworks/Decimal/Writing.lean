import Printworks.Decimal.Shortest

/-!
# Writing decimal numbers

A decimal number is written with all its places, or with an exponent.
-/

namespace Printworks

namespace Decimal

/-- Positional text: all digits, and a point with at least one digit after it. -/
def positional (d : Decimal) : List Char :=
  let digits := Nat.toDigits 10 d.digits
  if 0 ≤ d.exponent then digits ++ List.replicate d.exponent.toNat '0' ++ ['.', '0']
  else
    let places := (-d.exponent).toNat
    let padded := List.replicate (places + 1 - digits.length) '0' ++ digits
    padded.take (padded.length - places) ++ '.' :: padded.drop (padded.length - places)

/-- The power of ten that the first digit stands for. -/
def power (d : Decimal) : Int := d.exponent + ((Nat.toDigits 10 d.digits).length : Int) - 1

/-- Text with an exponent: one digit, the others after a point, and the power of ten. `plus` says
whether a power that is not negative has a sign as well. -/
def scientific (plus : Bool) (d : Decimal) : List Char :=
  let digits := Nat.toDigits 10 d.digits
  let fraction := match digits.drop 1 with
    | [] => []
    | rest => '.' :: rest
  let sign := if d.power < 0 then ['-'] else if plus then ['+'] else []
  digits.take 1 ++ fraction ++ 'e' :: sign ++ Nat.toDigits 10 d.power.natAbs

end Decimal

namespace Double

/-- The text of a double whose absolute value, if it is finite, has a certain text. -/
def textAround (body : List Char) (x : Double) : String :=
  if x.isNaN then "NaN"
  else
    let body := if x.isFinite then body else ['i', 'n', 'f']
    String.ofList (if x.isNegative then '-' :: body else body)

/-- The text of a double with all its places: the fewest digits that read back, and at least one of
them after the point. -/
def placesText (x : Double) : String := x.textAround (x.shortest .up).positional

/-- The text of a double: the fewest digits that read back, with all places where the first digit
stands between the fourth place after the point and the sixteenth before it. -/
def shortText (x : Double) : String :=
  let d := x.shortest .up
  let short := x.isZero ∨ (-4 ≤ d.power ∧ d.power < 16)
  x.textAround (if short then d.positional else d.scientific false)

example : (ofInt (10 ^ 21)).placesText = "1000000000000000000000.0" := by decide +kernel
example : (ofRatio true 3 2000).placesText = "-0.0015" := by decide +kernel
example : (ofRatio false 1 100000).shortText = "1e-5" := by decide +kernel
example : (ofRatio true (3 * 10 ^ 16) 2).shortText = "-1.5e16" := by decide +kernel

end Double

end Printworks
