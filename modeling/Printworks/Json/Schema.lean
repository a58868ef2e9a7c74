import Printworks.Json.Basic

/-!
# The shapes that documents give to data

A record is an object with an entry for each part, or an array with the parts in their order; other
entries do not matter, but no part may be given twice. An alternative is its name, or an object
whose one entry has that name. A tagged alternative is an object with an entry for the name and one
for the content, or an array of the two.
-/

namespace Printworks.Json

universe u
variable {α : Type u}

def text? (j : Json) : Option String :=
  match j with
  | text s => some s
  | _ => none

def bool? (j : Json) : Option Bool :=
  match j with
  | bool b => some b
  | _ => none

def nat? (j : Json) : Option Nat :=
  match j with
  | number (.int n) => if 0 ≤ n ∧ n < UInt64.size then some n.toNat else none
  | _ => none

/-- A signed integer as 64 bits, if it fits. -/
def word? (n : Int) : Option Int64 :=
  if Int64.minValue.toInt ≤ n ∧ n ≤ Int64.maxValue.toInt then some (Int64.ofInt n) else none

/-- The signed integer of 64 bits that a document is. -/
def int? (j : Json) : Option Int64 :=
  match j with
  | number (.int n) => word? n
  | _ => none

/-- The double that a number is, or the one nearest to an integer. -/
def double? (j : Json) : Option Double :=
  match j with
  | number (.int n) => some (Double.ofInt n)
  | number (.double x) => some x
  | _ => none

def list? (read : Json → Option α) (j : Json) : Option (List α) :=
  match j with
  | array items => items.mapM read
  | _ => none

def map? (read : Json → Option α) (j : Json) : Option (Dict α) :=
  match j with
  | object entries =>
    (entries.mapM (fun e => (read e.2).map (fun a => (e.1, a)))).map Dict.ofList
  | _ => none

/-- Nothing for null, and what is read for anything else. -/
def optional? (read : Json → Option α) (j : Json) : Option (Option α) :=
  match j with
  | null => some none
  | j => (read j).map some

/-- The parts of a record, in the order of their declaration. -/
structure Fields where
  /-- Whether the parts were given by name rather than by position. -/
  named : Bool
  parts : List (Option Json)

/-- The part of a name, if there is one. A name may not be repeated. -/
def part? (entries : List (String × Json)) (name : String) : Option (Option Json) :=
  match entries.filter (fun e => e.1 == name) with
  | [] => some none
  | [(_, j)] => some (some j)
  | _ => none

/-- The parts of a record whose parts have the given names. -/
def fields? (names : List String) (j : Json) : Option Fields :=
  match j with
  | object entries => (names.mapM (part? entries)).map (fun parts => ⟨true, parts⟩)
  | array items => if items.length ≤ names.length then some ⟨false, items.map some⟩ else none
  | _ => none

namespace Fields

/-- A part by its place in the declaration. -/
def part (f : Fields) (i : Nat) : Option Json := f.parts[i]?.join

/-- A part that has to be there. -/
def required (f : Fields) (i : Nat) (read : Json → Option α) : Option α := (f.part i).bind read

/-- A part that has a default. -/
def orDefault (f : Fields) (i : Nat) (default : α) (read : Json → Option α) : Option α :=
  match f.part i with
  | none => some default
  | some j => read j

/-- A part that may be absent or null. -/
def optional (f : Fields) (i : Nat) (read : Json → Option α) : Option (Option α) :=
  f.orDefault i none (optional? read)

/-- A part that may be null, and that may be absent where parts are given by name. -/
def nullable (f : Fields) (i : Nat) (read : Json → Option α) : Option (Option α) :=
  match f.part i with
  | none => if f.named then some none else none
  | some j => optional? read j

end Fields

/-- The name of an alternative, and its content if it has one. -/
def alternative? (j : Json) : Option (String × Option Json) :=
  match j with
  | text s => some (s, none)
  | object [(name, content)] => some (name, some content)
  | _ => none

/-- The name of an alternative without content. -/
def bareName? (j : Json) : Option String :=
  match alternative? j with
  | some (name, none) => some name
  | some (name, some null) => some name
  | _ => none

/-- The name of an alternative without content, for which an empty object may stand as well. -/
def emptyName? (j : Json) : Option String :=
  match alternative? j with
  | some (name, some (object [])) => some name
  | _ => j.bareName?

/-- The entry of a record, left out for none. -/
def entry? (name : String) (part : Option Json) : Option (String × Json) := part.map (name, ·)

/-- The entry of a list, left out if the list is empty. -/
def listEntry? (name : String) (items : List String) : Option (String × Json) :=
  if items.isEmpty then none else some (name, texts items)

def ofNames (d : Dict String) : Json := ofDict (d.map text)

end Printworks.Json
