import Printworks.FileName.Comparison
import Printworks.FileName.Expression

/-!
# Computing with data

Sums, products and the like. Two whole numbers give a whole number within the bounds of 128 bits or
nothing, and a fraction makes fractions of both. Texts and lists can be put together and repeated.
-/

namespace Printworks.FileName

namespace Datum

def bounded? (n : Int) : Option Datum :=
  if -numberBound ≤ n ∧ n < numberBound then some (number n) else none

/-- What two data are computed as. -/
inductive Operands where
  | wholes (m n : Int)
  | fractions (x y : Double)
  | texts (s t : String)

def double? (d : Datum) : Option Double :=
  match d with
  | fraction x => some x
  | d => d.whole?.map Double.ofInt

/-- The number of a datum, if it lies within the bounds. -/
def boundedWhole? (d : Datum) : Option Int := do
  let n ← d.whole?
  if n < numberBound then some n else none

/-- What two data are computed as, if they can be. -/
def operands? (a b : Datum) : Option Operands :=
  match a, b with
  | wide m, wide n =>
    some (.wholes ((m : Int).bmod (2 * numberBound)) ((n : Int).bmod (2 * numberBound)))
  | text s, text t => some (.texts s t)
  | fraction x, b => do return .fractions x (← b.double?)
  | a, fraction y => do return .fractions (← a.double?) y
  | a, b => do return .wholes (← a.boundedWhole?) (← b.boundedWhole?)

def add? (a b : Datum) : Option Datum := do
  match a, b with
  | list xs, list ys => return list (xs ++ ys)
  | a, b =>
    match ← operands? a b with
    | .wholes m n => bounded? (m + n)
    | .fractions x y => return fraction (x.add y)
    | .texts s t => return text (s ++ t)

/-- Compute with two numbers. -/
def ofNumbers? (wholes : Int → Int → Option Datum) (fractions : Double → Double → Double)
    (a b : Datum) : Option Datum := do
  match ← operands? a b with
  | .wholes m n => wholes m n
  | .fractions x y => return fraction (fractions x y)
  | .texts _ _ => none

/-- How often something is repeated. -/
def times? (d : Datum) : Option Nat := do
  let n ← d.index?
  if 0 ≤ n then some n.toNat else none

/-- A text or a list several times. -/
def repeated? {α : Type} (parts : List α) (times : Datum) : Option (List α) :=
  times.times?.map (fun n => (List.replicate n parts).flatten)

def multiply? (a b : Datum) : Option Datum :=
  match a, b with
  | text s, b => (repeated? s.toList b).map (fun cs => text (String.ofList cs))
  | a, text t => (repeated? t.toList a).map (fun cs => text (String.ofList cs))
  | list xs, b => (repeated? xs b).map list
  | a, list ys => (repeated? ys a).map list
  | a, b => ofNumbers? (fun m n => bounded? (m * n)) Double.product a b

/-- The quotient of two numbers, as a fraction. -/
def divide? (a b : Datum) : Option Datum := do
  return fraction ((← a.double?).quotient (← b.double?))

/-- How often a whole number goes into another one. -/
def wholeQuotient? (m n : Int) : Option Datum := if n = 0 then none else bounded? (m / n)

/-- What is left then, which is never negative. The least number cannot be divided by minus one. -/
def wholeRemainder? (m n : Int) : Option Datum :=
  if n = 0 ∨ (m = -numberBound ∧ n = -1) then none else bounded? (m % n)

/-- A number raised to a power. Powers beyond the bounds are not computed. -/
def wholePower? (m n : Int) : Option Datum :=
  if n < 0 ∨ writtenBound ≤ n then none
  else if n < 128 ∨ m.natAbs < 2 then
    -- Of one, minus one and zero only the parity of a high power counts.
    bounded? (Int.pow m (if n < 128 then n.toNat else (128 + n % 2).toNat))
  else none

/-- The number of the other sign. The least number has none, so that the number that is written with
its digits stays as it is. -/
def negate? (d : Datum) : Option Datum :=
  match d with
  | number n => bounded? (-n)
  | wide n =>
    if n = numberBound then some (wide n) else if n < numberBound then bounded? (-n) else none
  | fraction x => some (fraction x.neg)
  | _ => none

/-- A bound of a slice: a number, or nothing. -/
def bound? (d : Datum) : Option (Option Int) :=
  match d with
  | nothing => some none
  | d => d.index?.map some

/-- The items from one place up to another. A negative place counts from the end. -/
def cut {α : Type} (items : List α) (start stop : Option Int) : List α :=
  let size : Int := items.length
  let place (n : Int) : Int := if n < 0 then size + n else n
  let first := place (start.getD 0)
  let last := place (stop.getD size)
  if first < 0 then [] else (items.drop first.toNat).take (last - first).toNat

/-- Every `step`-th item, the first of them first. -/
def everyNth {α : Type} (step : Nat) (items : List α) : List α :=
  (items.zipIdx.filter (fun item => item.2 % step == 0)).map (·.1)

/-- The items from one place back to another one, which does not belong to them. -/
def cutBack {α : Type} (items : List α) (start stop : Option Int) : List α :=
  let size : Int := items.length
  let place (n : Int) : Int := if n < 0 then max 0 (size + n) else n
  let first := min (place (start.getD (size - 1))) (size - 1)
  let kept := items.take (first + 1).toNat
  match stop with
  | none => kept.reverse
  | some n => (kept.drop (place n + 1).toNat).reverse

/-- Every so many items from one place up to another, or back to it. -/
def sliced {α : Type} (items : List α) (start stop : Option Int) (step : Int) : List α :=
  if 0 < step then everyNth step.toNat (cut items start stop)
  else everyNth step.natAbs (cutBack items start stop)

/-- Every so many characters or items of a datum. -/
def slice? (d start stop step : Datum) : Option Datum := do
  let start ← start.bound?
  let stop ← stop.bound?
  let step := (← step.bound?).getD 1
  if step = 0 then none
  else
    match d with
    | text s => return text (String.ofList (sliced s.toList start stop step))
    | list items => return list (sliced items start stop step)
    | undefined => return list []
    | nothing => return list []
    | _ => none

end Datum

/-- What an operation gives, if it gives anything. -/
def Operation.result? (o : Operation) (a b : Datum) : Option Datum :=
  match o with
  | add => a.add? b
  | subtract => Datum.ofNumbers? (fun m n => Datum.bounded? (m - n)) (fun x y => x.add y.neg) a b
  | multiply => a.multiply? b
  | divide => a.divide? b
  | divideWhole => Datum.ofNumbers? Datum.wholeQuotient? Double.quotientFloor a b
  | remainder => Datum.ofNumbers? Datum.wholeRemainder? Double.remainder a b
  | raise => Datum.ofNumbers? Datum.wholePower? Double.raised a b
  | join => some (.text (a.print ++ b.print))

/-- Whether a comparison holds, unless the data cannot be compared. -/
def Relation.holds? (r : Relation) (a b : Datum) : Option Bool :=
  match r with
  | equal => some (a.same b)
  | unequal => some (!a.same b)
  | less => some (a.order b == .lt)
  | atMost => some (a.order b != .gt)
  | greater => some (a.order b == .gt)
  | atLeast => some (a.order b != .lt)
  | inside => a.isIn? b
  | outside => (a.isIn? b).map (!·)

example : (Operation.remainder.result? (.number (-7)) (.number 4)).map Datum.print = some "1" := by
  decide +kernel
example : (Datum.slice? (.text "city") (.number (-2)) .nothing .nothing).map Datum.print =
    some "ty" := by decide +kernel

end Printworks.FileName
