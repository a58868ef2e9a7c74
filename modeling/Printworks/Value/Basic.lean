import Printworks.Json.Schema
import Printworks.ValueType

/-!
# Values

What stages exchange. `Value.ofJson` takes a document as it is, without a declared type, and
`Value.toJson` is the plain document of a value, in which an artifact is an object and what is no
finite number is null.
-/

namespace Printworks

/-- A reference to something that a stage has written elsewhere. -/
structure Artifact where
  /-- Where it is: a path, an address or a key of a store. -/
  location : String
  contentType : Option String
  deriving DecidableEq, Inhabited

/-- A typed value. The entries of a map are listed in increasing order of their names. -/
inductive Value where
  | null
  | bool (b : Bool)
  | integer (n : Int64)
  | number (x : Double)
  | string (s : String)
  | list (items : List Value)
  | map (entries : List (String × Value))
  | artifact (ref : Artifact)
  deriving Inhabited

def Artifact.at (location : String) : Artifact := ⟨location, none⟩

namespace Value

mutual

def decEq (a b : Value) : Decidable (a = b) :=
  match a, b with
  | null, null => isTrue rfl
  | bool x, bool y => if h : x = y then isTrue (h ▸ rfl) else isFalse (by simpa using h)
  | integer x, integer y => if h : x = y then isTrue (h ▸ rfl) else isFalse (by simpa using h)
  | number x, number y => if h : x = y then isTrue (h ▸ rfl) else isFalse (by simpa using h)
  | string x, string y => if h : x = y then isTrue (h ▸ rfl) else isFalse (by simpa using h)
  | artifact x, artifact y => if h : x = y then isTrue (h ▸ rfl) else isFalse (by simpa using h)
  | list x, list y => match decEqItems x y with
    | isTrue h => isTrue (h ▸ rfl)
    | isFalse h => isFalse (by simpa using h)
  | map x, map y => match decEqEntries x y with
    | isTrue h => isTrue (h ▸ rfl)
    | isFalse h => isFalse (by simpa using h)
  | null, bool _ | null, integer _ | null, number _ | null, string _ | null, list _ | null, map _
  | null, artifact _ => isFalse nofun
  | bool _, null | bool _, integer _ | bool _, number _ | bool _, string _ | bool _, list _
  | bool _, map _ | bool _, artifact _ => isFalse nofun
  | integer _, null | integer _, bool _ | integer _, number _ | integer _, string _
  | integer _, list _ | integer _, map _ | integer _, artifact _ => isFalse nofun
  | number _, null | number _, bool _ | number _, integer _ | number _, string _
  | number _, list _ | number _, map _ | number _, artifact _ => isFalse nofun
  | string _, null | string _, bool _ | string _, integer _ | string _, number _
  | string _, list _ | string _, map _ | string _, artifact _ => isFalse nofun
  | list _, null | list _, bool _ | list _, integer _ | list _, number _ | list _, string _
  | list _, map _ | list _, artifact _ => isFalse nofun
  | map _, null | map _, bool _ | map _, integer _ | map _, number _ | map _, string _
  | map _, list _ | map _, artifact _ => isFalse nofun
  | artifact _, null | artifact _, bool _ | artifact _, integer _ | artifact _, number _
  | artifact _, string _ | artifact _, list _ | artifact _, map _ => isFalse nofun

def decEqItems (a b : List Value) : Decidable (a = b) :=
  match a, b with
  | [], [] => isTrue rfl
  | x :: xs, y :: ys => match decEq x y, decEqItems xs ys with
    | isTrue h, isTrue k => isTrue (h ▸ k ▸ rfl)
    | isFalse h, _ => isFalse (fun e => h (List.cons.inj e).1)
    | _, isFalse k => isFalse (fun e => k (List.cons.inj e).2)
  | [], _ :: _ => isFalse nofun
  | _ :: _, [] => isFalse nofun

def decEqEntries (a b : List (String × Value)) : Decidable (a = b) :=
  match a, b with
  | [], [] => isTrue rfl
  | (k, x) :: xs, (l, y) :: ys => match decEq x y, decEqEntries xs ys with
    | isTrue h, isTrue t =>
      if e : k = l then isTrue (h ▸ t ▸ e ▸ rfl)
      else isFalse (fun q => e (Prod.mk.inj (List.cons.inj q).1).1)
    | isFalse h, _ => isFalse (fun q => h (Prod.mk.inj (List.cons.inj q).1).2)
    | _, isFalse t => isFalse (fun q => t (List.cons.inj q).2)
  | [], _ :: _ => isFalse nofun
  | _ :: _, [] => isFalse nofun

end

instance : DecidableEq Value := decEq

/-- The type that a value carries. Null has no type of its own. -/
def type (v : Value) : ValueType :=
  match v with
  | null => .any
  | bool _ => .bool
  | integer _ => .integer
  | number _ => .number
  | string _ => .string
  | list _ => .list
  | map _ => .map
  | artifact _ => .artifact

def isNull (v : Value) : Bool := v matches null

def bool? (v : Value) : Option Bool :=
  match v with
  | bool b => some b
  | _ => none

def integer? (v : Value) : Option Int64 :=
  match v with
  | integer n => some n
  | _ => none

/-- The number that a value is. Integers are numbers too, rounded to a double. -/
def number? (v : Value) : Option Double :=
  match v with
  | integer n => some (Double.ofInt n.toInt)
  | number x => some x
  | _ => none

def string? (v : Value) : Option String :=
  match v with
  | string s => some s
  | _ => none

def list? (v : Value) : Option (List Value) :=
  match v with
  | list items => some items
  | _ => none

def map? (v : Value) : Option (List (String × Value)) :=
  match v with
  | map entries => some entries
  | _ => none

def artifact? (v : Value) : Option Artifact :=
  match v with
  | artifact ref => some ref
  | _ => none

/-- A number of a document: an integer if it fits in 64 signed bits. -/
def ofNumber (n : JsonNumber) : Value :=
  match n with
  | .int i => match Json.word? i with
    | some w => integer w
    | none => number (Double.ofInt i)
  | .double x => number x

mutual

/-- The value of a document, taken as it is. -/
def ofJson : Json → Value
  | .null => null
  | .bool b => bool b
  | .number n => ofNumber n
  | .text s => string s
  | .array items => list (ofItems items)
  | .object entries => map (ofEntries entries).toList

def ofItems : List Json → List Value
  | [] => []
  | item :: rest => ofJson item :: ofItems rest

def ofEntries : List (String × Json) → Dict Value
  | [] => ∅
  | (key, item) :: rest => (ofEntries rest).insertNew key (ofJson item)

end

def plainArtifact (ref : Artifact) : Json :=
  .record [Json.entry? "content_type" (ref.contentType.map .text),
    some ("location", .text ref.location)]

mutual

/-- The plain document of a value. -/
def toJson : Value → Json
  | null => .null
  | bool b => .bool b
  | integer n => .int n.toInt
  | number x => .double x
  | string s => .text s
  | list items => .array (itemsToJson items)
  | map entries => .object (entriesToJson entries)
  | artifact ref => plainArtifact ref

def itemsToJson : List Value → List Json
  | [] => []
  | item :: rest => toJson item :: itemsToJson rest

def entriesToJson : List (String × Value) → List (String × Json)
  | [] => []
  | (key, item) :: rest => (key, toJson item) :: entriesToJson rest

end

end Value

end Printworks
