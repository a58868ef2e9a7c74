import Printworks.Dict
import Printworks.Decimal.Double

/-!
# JSON documents

A document keeps what its text says: the entries of an object in their order, repeated names
included, and whether a number was written as an integer or as a double. `canonical` is the reading
of objects as maps, in which names are sorted and the last entry of a name counts.
-/

namespace Printworks

inductive JsonNumber where
  /-- A whole number that fits in 64 bits, with or without a sign. -/
  | int (n : Int)
  | double (x : Double)
  deriving DecidableEq, Inhabited

inductive Json where
  | null
  | bool (b : Bool)
  | number (n : JsonNumber)
  | text (s : String)
  | array (items : List Json)
  | object (entries : List (String × Json))
  deriving Inhabited

namespace JsonNumber

/-- Whether two numbers are the same kind of number and equal. The two zeros are equal. -/
def agrees (a b : JsonNumber) : Bool :=
  match a, b with
  | int m, int n => m == n
  | double x, double y => x.sameNumber y
  | _, _ => false

end JsonNumber

namespace Json

mutual

def decEq (a b : Json) : Decidable (a = b) :=
  match a, b with
  | null, null => isTrue rfl
  | bool x, bool y => if h : x = y then isTrue (h ▸ rfl) else isFalse (by simpa using h)
  | number x, number y => if h : x = y then isTrue (h ▸ rfl) else isFalse (by simpa using h)
  | text x, text y => if h : x = y then isTrue (h ▸ rfl) else isFalse (by simpa using h)
  | array x, array y => match decEqItems x y with
    | isTrue h => isTrue (h ▸ rfl)
    | isFalse h => isFalse (by simpa using h)
  | object x, object y => match decEqEntries x y with
    | isTrue h => isTrue (h ▸ rfl)
    | isFalse h => isFalse (by simpa using h)
  | null, bool _ => isFalse nofun
  | null, number _ => isFalse nofun
  | null, text _ => isFalse nofun
  | null, array _ => isFalse nofun
  | null, object _ => isFalse nofun
  | bool _, null => isFalse nofun
  | bool _, number _ => isFalse nofun
  | bool _, text _ => isFalse nofun
  | bool _, array _ => isFalse nofun
  | bool _, object _ => isFalse nofun
  | number _, null => isFalse nofun
  | number _, bool _ => isFalse nofun
  | number _, text _ => isFalse nofun
  | number _, array _ => isFalse nofun
  | number _, object _ => isFalse nofun
  | text _, null => isFalse nofun
  | text _, bool _ => isFalse nofun
  | text _, number _ => isFalse nofun
  | text _, array _ => isFalse nofun
  | text _, object _ => isFalse nofun
  | array _, null => isFalse nofun
  | array _, bool _ => isFalse nofun
  | array _, number _ => isFalse nofun
  | array _, text _ => isFalse nofun
  | array _, object _ => isFalse nofun
  | object _, null => isFalse nofun
  | object _, bool _ => isFalse nofun
  | object _, number _ => isFalse nofun
  | object _, text _ => isFalse nofun
  | object _, array _ => isFalse nofun

def decEqItems (a b : List Json) : Decidable (a = b) :=
  match a, b with
  | [], [] => isTrue rfl
  | x :: xs, y :: ys => match decEq x y, decEqItems xs ys with
    | isTrue h, isTrue k => isTrue (h ▸ k ▸ rfl)
    | isFalse h, _ => isFalse (fun e => h (List.cons.inj e).1)
    | _, isFalse k => isFalse (fun e => k (List.cons.inj e).2)
  | [], _ :: _ => isFalse nofun
  | _ :: _, [] => isFalse nofun

def decEqEntries (a b : List (String × Json)) : Decidable (a = b) :=
  match a, b with
  | [], [] => isTrue rfl
  | (k, x) :: xs, (l, y) :: ys => match decEq x y, decEqEntries xs ys with
    | isTrue h, isTrue t =>
      if e : k = l then isTrue (h ▸ t ▸ e ▸ rfl)
      else isFalse (fun q => e (Prod.mk.inj (List.cons.inj q).1).1)
    | isFalse h, _ => isFalse (fun q => h (Prod.mk.inj (List.cons.inj q).1).2)
    | _, isFalse t => isFalse (fun q => t (List.cons.inj q).2)
  | [], _ :: _ => isFalse nofun
  | _ :: _, [] => isFalse nofun

end

instance : DecidableEq Json := decEq

def int (n : Int) : Json := .number (.int n)

/-- A document of a double; what is no finite number has no digits and becomes null. -/
def double (x : Double) : Json := if x.isFinite then .number (.double x) else .null

def texts (items : List String) : Json := .array (items.map .text)

def ofDict (d : Dict Json) : Json := .object d.toList

/-- The document of an optional part, null for none. -/
def orNull (part : Option Json) : Json := part.getD .null

/-- An object of some entries, some of which may be left out. -/
def record (entries : List (Option (String × Json))) : Json := .object (entries.filterMap id)

mutual

/-- The document with every object read as a map: names sorted, the last entry of each counting. -/
def canonical : Json → Json
  | array items => array (canonicalItems items)
  | object entries => object (canonicalEntries entries).toList
  | null => null
  | bool b => bool b
  | number n => number n
  | text s => text s

/-- The canonical forms of the items of an array. -/
def canonicalItems : List Json → List Json
  | [] => []
  | item :: rest => canonical item :: canonicalItems rest

/-- The map of the entries of an object. A later entry of a name wins. -/
def canonicalEntries : List (String × Json) → Dict Json
  | [] => ∅
  | (key, item) :: rest => (canonicalEntries rest).insertNew key (canonical item)

end

mutual

/-- Whether two canonical documents are equal, the two zeros being one number. -/
def agrees : Json → Json → Bool
  | null, null => true
  | bool a, bool b => a == b
  | number a, number b => a.agrees b
  | text a, text b => a == b
  | array a, array b => agreesItems a b
  | object a, object b => agreesEntries a b
  | _, _ => false

def agreesItems : List Json → List Json → Bool
  | [], [] => true
  | a :: as, b :: bs => agrees a b && agreesItems as bs
  | _, _ => false

def agreesEntries : List (String × Json) → List (String × Json) → Bool
  | [], [] => true
  | (k, a) :: as, (l, b) :: bs => k == l && agrees a b && agreesEntries as bs
  | _, _ => false

end

def isNull (j : Json) : Bool := j matches null

def dict? (j : Json) : Option (Dict Json) :=
  match j with
  | object entries => some (canonicalEntries entries)
  | _ => none

end Json

end Printworks
