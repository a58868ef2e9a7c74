import Printworks.Decimal.Double

/-!
# Arithmetic on all doubles

Products, quotients and remainders of doubles that may be infinite or no number, and the whole
numbers near a double. A result is exact and rounded once.
-/

namespace Printworks

namespace Double

def product (a b : Double) : Double :=
  let negative := a.isNegative != b.isNegative
  if a.isNaN ∨ b.isNaN then nan
  else if a.isFinite ∧ b.isFinite then a.mul b
  else if a.isZero ∨ b.isZero then nan
  else infinity negative

def quotient (a b : Double) : Double :=
  let negative := a.isNegative != b.isNegative
  if a.isNaN ∨ b.isNaN then nan
  else if ¬ a.isFinite then (if b.isFinite then infinity negative else nan)
  else if ¬ b.isFinite then zero negative
  else if b.isZero then (if a.isZero then nan else infinity negative)
  else a.div b

/-- The part of a number that is left when another one has been taken away from it as often as it
goes into it, with the sign of the number. -/
def remainder (a b : Double) : Double :=
  if a.isNaN ∨ b.isNaN ∨ ¬ a.isFinite ∨ b.isZero then nan
  else if ¬ b.isFinite then a
  else
    let (an, ad) := a.ratio
    let (bn, bd) := b.ratio
    ofRatio a.isNegative ((an * bd) % (bn * ad)) (ad * bd)

/-- The whole part of a finite number. -/
def wholePart (a : Double) : Int :=
  let (num, den) := a.ratio
  if a.isNegative then -((num / den : Nat) : Int) else ((num / den : Nat) : Int)

/-- The whole part of a number as a number. -/
def truncated (a : Double) : Double :=
  if a.isFinite then
    let (num, den) := a.ratio
    ofRatio a.isNegative (num / den) 1
  else a

/-- The whole number nearest to a number; a half goes away from zero. -/
def rounded (a : Double) : Double :=
  if a.isFinite then
    let (num, den) := a.ratio
    ofRatio a.isNegative ((2 * num + den) / (2 * den)) 1
  else a

/-- How often a number goes into another one, so that what is left is not negative. -/
def quotientFloor (a b : Double) : Double :=
  let q := (a.quotient b).truncated
  let rest := a.remainder b
  if rest.isNaN ∨ rest.isZero ∨ ¬ rest.isNegative then q
  else if b.isNegative then q.add (ofInt 1) else q.add (ofInt (-1))

/-- A number raised to a power. -/
def raised (a b : Double) : Double :=
  ⟨(Float.pow (Float.ofBits a.bits) (Float.ofBits b.bits)).toBits⟩

/-- A key under which numbers are in order: the negative ones, the two zeros with the negative one
first, and the positive ones. -/
def orderKey (a : Double) : Int :=
  if a.isNegative then -(a.payload : Int) - 1 else a.payload

example : (remainder (ofInt (-7)) (ofInt 4)).hex = (ofInt (-3)).hex := by decide +kernel
example : (quotientFloor (ofInt (-7)) (ofInt 4)).hex = (ofInt (-2)).hex := by decide +kernel
example : (rounded (ofRatio true 5 2)).hex = (ofInt (-3)).hex := by decide +kernel

end Double

end Printworks
