import Printworks.Decimal.Double

/-!
# Reading decimal numbers

How integers and doubles are read from a text that holds one number in decimal and nothing else.
-/

namespace Printworks

def digitValue? (c : Char) : Option Nat :=
  if '0' ≤ c ∧ c ≤ '9' then some (c.toNat - 48) else none

def isDigit (c : Char) : Bool := (digitValue? c).isSome

/-- The number that a list of digits writes. -/
def digitsValue (cs : List Char) : Nat :=
  cs.foldl (fun n c => 10 * n + (digitValue? c).getD 0) 0

/-- Split a sign off a text. -/
def takeSign (cs : List Char) : Bool × List Char :=
  match cs with
  | '-' :: rest => (true, rest)
  | '+' :: rest => (false, rest)
  | rest => (false, rest)

def signed (negative : Bool) (n : Nat) : Int := if negative then -(n : Int) else n

/-- The integer that a text writes: an optional sign and at least one digit. -/
def readInt? (cs : List Char) : Option Int :=
  let (negative, digits) := takeSign cs
  if digits.isEmpty || !digits.all isDigit then none
  else some (signed negative (digitsValue digits))

namespace Double

/-- The double nearest to `± digits · 10 ^ exponent`. A decimal point more than four hundred
places away from the digits decides the result without computing the power. -/
def ofDecimal (negative : Bool) (digits : Nat) (exponent : Int) : Double :=
  let size : Int := (Nat.toDigits 10 digits).length
  if digits = 0 then zero negative
  else if 400 < size + exponent then infinity negative
  else if size + exponent < -400 then zero negative
  else ofRatio negative (digits * Nat.pow 10 exponent.toNat) (Nat.pow 10 (-exponent).toNat)

/-- The names of the values that digits cannot write. -/
def named? (cs : List Char) (negative : Bool) : Option Double :=
  match String.ofList (cs.map Char.toLower) with
  | "inf" => some (infinity negative)
  | "infinity" => some (infinity negative)
  | "nan" => some (if negative then neg nan else nan)
  | _ => none

/-- The exponent part of a number: nothing, or a mark, an optional sign and digits. -/
def readExponent? (cs : List Char) : Option Int :=
  match cs with
  | [] => some 0
  | mark :: rest => if mark = 'e' ∨ mark = 'E' then readInt? rest else none

/-- The double that a text writes: an optional sign, digits with at most one point among them and
an optional exponent, or the name of an infinity or of what is no number in any case. -/
def read? (cs : List Char) : Option Double :=
  let (negative, rest) := takeSign cs
  let whole := rest.takeWhile isDigit
  let afterWhole := rest.dropWhile isDigit
  let (fraction, tail) := match afterWhole with
    | '.' :: more => (more.takeWhile isDigit, more.dropWhile isDigit)
    | other => ([], other)
  if whole.isEmpty && fraction.isEmpty then named? rest negative
  else match readExponent? tail with
    | none => none
    | some e => some (ofDecimal negative (digitsValue (whole ++ fraction)) (e - fraction.length))

example : (read? ".5".toList).map hex = some "3fe0000000000000" := by decide +kernel
example : read? ".".toList = none := by decide +kernel
example : (read? "-1e400".toList).map hex = some "fff0000000000000" := by decide +kernel

end Double

end Printworks
