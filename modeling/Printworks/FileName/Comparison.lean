import Printworks.Decimal.Arithmetic
import Printworks.FileName.Datum

/-!
# Comparing data

When two data are equal, which comes first, and what lies in what. Data of different kinds are in
the order of their kinds, and numbers and truth values are equal if they have one value.
-/

namespace Printworks.FileName.Datum

/-- What is computed lies below this number and not below its negative. -/
def numberBound : Nat := Nat.pow 2 127

/-- The whole number of a datum. -/
def whole? (d : Datum) : Option Int :=
  match d with
  | truth b => some (if b then 1 else 0)
  | number n => some n
  | wide n => some n
  | _ => none

/-- Whether a double is exactly a whole number. -/
def isExactly (x : Double) (n : Int) : Bool :=
  let (num, den) := x.ratio
  x.isFinite && (if x.isNegative then -(num : Int) else num) == n * den

/-- Places lie below this number and not below its negative. -/
def placeBound : Nat := Nat.pow 2 63

/-- The whole number of a datum where a place or a count is asked for. A fraction will do that has
one value with a whole number. -/
def index? (d : Datum) : Option Int := do
  let n ← match d with
    | fraction x => if isExactly x x.wholePart then some x.wholePart else none
    | d => d.whole?
  if -placeBound ≤ n ∧ n < placeBound then some n else none

mutual

def same : Datum → Datum → Bool
  | undefined, undefined => true
  | nothing, nothing => true
  | text s, text t => s == t
  | fraction x, fraction y => x.sameNumber y
  | list xs, list ys => sameItems xs ys
  | record xs, record ys => sameEntries xs ys
  | helper g, helper h => g == h
  | fraction x, d => d.whole?.any (isExactly x)
  | d, fraction x => d.whole?.any (isExactly x)
  | a, b =>
    match a.whole?, b.whole? with
    | some m, some n => m == n
    | _, _ => false

def sameItems : List Datum → List Datum → Bool
  | [], [] => true
  | x :: xs, y :: ys => same x y && sameItems xs ys
  | _, _ => false

def sameEntries : List (Datum × Datum) → List (Datum × Datum) → Bool
  | [], [] => true
  | (k, x) :: xs, (l, y) :: ys => same k l && same x y && sameEntries xs ys
  | _, _ => false

end

/-- The place of the kind of a datum among all kinds. -/
def kind (d : Datum) : Nat :=
  match d with
  | undefined => 0
  | nothing => 1
  | truth _ => 2
  | number _ => 3
  | wide _ => 3
  | fraction _ => 3
  | text _ => 4
  | list _ => 5
  | record _ => 6
  | helper _ => 7

/-- The order of a fraction and a whole number. -/
def orderExactly (x : Double) (n : Int) : Ordering :=
  let (num, den) := x.ratio
  if x.isFinite then
    compare (if x.isNegative then -(num : Int) else (num : Int)) (n * (den : Int))
  else if x.isNegative then .lt else .gt

def orderPlain (a b : Datum) : Ordering :=
  match a, b with
  | text s, text t => compare s t
  | fraction x, fraction y => compare x.orderKey y.orderKey
  | fraction x, d => d.whole?.elim .eq (orderExactly x)
  | d, fraction x => d.whole?.elim .eq (fun n => (orderExactly x n).swap)
  | helper g, helper h => compare g.name h.name
  | a, b =>
    match a.whole?, b.whole? with
    | some m, some n => compare m n
    | _, _ => .eq

mutual

def order : Datum → Datum → Ordering
  | list xs, list ys => orderItems xs ys
  | record xs, record ys => orderEntries xs ys
  | a, b => (compare a.kind b.kind).then (a.orderPlain b)

/-- The order of two lists: that of the first items that differ. -/
def orderItems : List Datum → List Datum → Ordering
  | [], [] => .eq
  | [], _ :: _ => .lt
  | _ :: _, [] => .gt
  | x :: xs, y :: ys => (order x y).then (orderItems xs ys)

/-- The order of two records: that of the first keys or values that differ. -/
def orderEntries : List (Datum × Datum) → List (Datum × Datum) → Ordering
  | [], [] => .eq
  | [], _ :: _ => .lt
  | _ :: _, [] => .gt
  | (k, x) :: xs, (l, y) :: ys => ((order k l).then (order x y)).then (orderEntries xs ys)

end

/-- Put a value under a key, in place of the one that is there. -/
def insertEntry (entries : List (Datum × Datum)) (key value : Datum) : List (Datum × Datum) :=
  match entries with
  | [] => [(key, value)]
  | (k, v) :: rest =>
    match key.order k with
    | .lt => (key, value) :: (k, v) :: rest
    | .eq => (k, value) :: rest
    | .gt => (k, v) :: insertEntry rest key value

/-- The record of some entries, of which the last one of a key counts. -/
def ofEntries (entries : List (Datum × Datum)) : Datum :=
  record (entries.foldl (fun all entry => insertEntry all entry.1 entry.2) [])

/-- The record of what is given by name. -/
def ofNamed (named : List (String × Datum)) : Datum :=
  ofEntries (named.map (fun entry => (text entry.1, entry.2)))

/-- The value under a key. -/
def valueAt? (entries : List (Datum × Datum)) (key : Datum) : Option Datum :=
  (entries.find? (fun entry => entry.1.order key == .eq)).map (·.2)

/-- Whether a text occurs in another one. -/
def occursIn (part : List Char) (cs : List Char) : Bool :=
  match cs with
  | [] => part.isEmpty
  | c :: rest => part.isPrefixOf (c :: rest) || occursIn part rest

/-- Whether a datum lies in another one, if that one holds anything. -/
def isIn? (d : Datum) (container : Datum) : Option Bool :=
  match container with
  | undefined => some false
  | helper _ => some false
  | text s => some (occursIn d.print.toList s.toList)
  | list items => some (items.any (fun item => item.same d))
  | record entries => some (valueAt? entries d).isSome
  | _ => none

/-- The place that an index means among `size` places; a negative one counts from the end. -/
def place? (index : Int) (size : Nat) : Option Nat :=
  if 0 ≤ index then some index.toNat
  else if -index ≤ size then some (index + size).toNat
  else none

def field (d : Datum) (name : String) : Datum :=
  match d with
  | record entries => (valueAt? entries (text name)).getD undefined
  | _ => undefined

def item (d index : Datum) : Datum :=
  let at? {α : Type} (items : List α) : Option α := do
    let i ← index.index?
    items[← place? i items.length]?
  match d with
  | text s => ((at? s.toList).map character).getD undefined
  | list items => (at? items).getD undefined
  | record entries => (valueAt? entries index).getD undefined
  | _ => undefined

end Printworks.FileName.Datum
