/-!
# Doubles

Binary floating point numbers of 64 bits. A `Double` is its bit pattern: two numbers are the same
`Double` exactly when their bits are. The finite ones stand for `± m · 2 ^ q` with a natural number
`m`, and every operation here is the exact result on such numbers, rounded once to the nearest
pattern, a tie to the even one.
-/

namespace Printworks

structure Double where
  /-- One bit of sign, eleven of exponent, fifty-two of fraction. -/
  bits : UInt64
  deriving DecidableEq, Inhabited

namespace Double

/-- How many patterns share one sign and one exponent. -/
def fractionSize : Nat := Nat.pow 2 52

/-- The exponent field of the infinities and of what is no number. -/
def topExponent : Nat := 2047

def payload (d : Double) : Nat := d.bits.toNat % Nat.pow 2 63

def isNegative (d : Double) : Bool := decide (Nat.pow 2 63 ≤ d.bits.toNat)

def exponentField (d : Double) : Nat := d.payload / fractionSize

def fractionField (d : Double) : Nat := d.payload % fractionSize

def isFinite (d : Double) : Bool := decide (d.exponentField < topExponent)

def isNaN (d : Double) : Bool := d.exponentField == topExponent && d.fractionField != 0

/-- Whether the pattern is one of the two zeros. -/
def isZero (d : Double) : Bool := d.payload == 0

/-- The natural number `m` of the absolute value `m · 2 ^ q`. -/
def significand (d : Double) : Nat :=
  if d.exponentField = 0 then d.fractionField else d.fractionField + fractionSize

/-- The exponent `q` of the absolute value `m · 2 ^ q`. -/
def scale (d : Double) : Int :=
  if d.exponentField = 0 then -1074 else d.exponentField - 1075

/-- The pattern with a given sign and payload. -/
def ofPayload (negative : Bool) (payload : Nat) : Double :=
  ⟨UInt64.ofNat (if negative then payload + Nat.pow 2 63 else payload)⟩

def zero (negative : Bool) : Double := ofPayload negative 0

def infinity (negative : Bool) : Double := ofPayload negative (topExponent * fractionSize)

def nan : Double := ofPayload false (topExponent * fractionSize + fractionSize / 2)

/-- A quotient rounded to the nearest natural number, a tie to the even one. -/
def roundDiv (num den : Nat) : Nat :=
  let q := num / den
  let twice := 2 * (num % den)
  if den < twice ∨ (twice = den ∧ q % 2 = 1) then q + 1 else q

/-- `2 ^ e` for a natural exponent and 1 for a negative one. -/
def twoPow (e : Int) : Nat := Nat.pow 2 e.toNat

/-- The double nearest to `± num / den`, a tie to the even pattern. What is too large becomes
infinite. -/
def ofRatio (negative : Bool) (num den : Nat) : Double :=
  if num = 0 ∨ den = 0 then zero negative
  else
    -- The quotient lies within a factor of two of what this scale takes: it is off by one at most.
    let guess : Int := (Nat.log2 num : Int) - Nat.log2 den - 52
    let short := num * twoPow (-guess) / (den * twoPow guess) < fractionSize
    let q : Int := max (-1074) (if short then guess - 1 else guess)
    let m := roundDiv (num * twoPow (-q)) (den * twoPow q)
    let payload :=
      if m < fractionSize then m else (q + 1075).toNat * fractionSize + (m - fractionSize)
    if topExponent * fractionSize ≤ payload then infinity negative else ofPayload negative payload

/-- The double nearest to an integer. -/
def ofInt (n : Int) : Double := ofRatio (decide (n < 0)) n.natAbs 1

/-- Numerator and denominator of the absolute value. -/
def ratio (d : Double) : Nat × Nat :=
  (d.significand * twoPow d.scale, twoPow (-d.scale))

def neg (d : Double) : Double := ofPayload (!d.isNegative) d.payload

def mul (a b : Double) : Double :=
  let (an, ad) := a.ratio
  let (bn, bd) := b.ratio
  ofRatio (a.isNegative != b.isNegative) (an * bn) (ad * bd)

def div (a b : Double) : Double :=
  let (an, ad) := a.ratio
  let (bn, bd) := b.ratio
  ofRatio (a.isNegative != b.isNegative) (an * bd) (ad * bn)

/-- The sum of two numbers, rounded once. Infinities of both signs have none, and a sum that is zero
has the sign that both parts have, if any. -/
def add (a b : Double) : Double :=
  if a.isNaN ∨ b.isNaN then nan
  else if ¬ a.isFinite then
    if b.isFinite ∨ a.isNegative = b.isNegative then a else nan
  else if ¬ b.isFinite then b
  else
    let (an, ad) := a.ratio
    let (bn, bd) := b.ratio
    let left : Int := an * bd
    let right : Int := bn * ad
    let sum := (if a.isNegative then -left else left) + (if b.isNegative then -right else right)
    if sum = 0 then zero (a.isNegative && b.isNegative)
    else ofRatio (decide (sum < 0)) sum.natAbs (ad * bd)

/-- Equality of numbers: the two zeros are equal, and what is no number equals nothing. -/
def sameNumber (a b : Double) : Bool :=
  !a.isNaN && !b.isNaN && (a == b || (a.isZero && b.isZero))

def hex (d : Double) : String :=
  let digits := Nat.toDigits 16 d.bits.toNat
  String.ofList (List.replicate (16 - digits.length) '0' ++ digits)

example : (ofInt 1).hex = "3ff0000000000000" := by decide +kernel
example : (ofRatio true 1 10).hex = "bfb999999999999a" := by decide +kernel
example : ((ofRatio false 1 10).add (ofRatio false 2 10)).hex = "3fd3333333333334" := by
  decide +kernel
example : (ofInt (2 ^ 53 + 1)).hex = "4340000000000000" := by decide +kernel

end Double

end Printworks
