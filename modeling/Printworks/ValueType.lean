import Printworks.Text.Case

/-!
# Types of values

A slot declares what it takes or gives. `any` fits everything on either side, and an integer is
taken where a number is expected.
-/

namespace Printworks

inductive ValueType where
  | any
  | bool
  | integer
  | number
  | string
  | list
  | map
  | artifact
  deriving DecidableEq, Inhabited, Repr

namespace ValueType

/-- Whether a value produced as one type may be consumed as the other. -/
def satisfies (produced expected : ValueType) : Bool :=
  match produced, expected with
  | _, any => true
  | any, _ => true
  | integer, number => true
  | produced, expected => produced == expected

def name (t : ValueType) : String :=
  match t with
  | any => "any"
  | bool => "bool"
  | integer => "integer"
  | number => "number"
  | string => "string"
  | list => "list"
  | map => "map"
  | artifact => "artifact"

def ofName? (s : String) : Option ValueType :=
  match s with
  | "any" => some any
  | "bool" => some bool
  | "integer" => some integer
  | "number" => some number
  | "string" => some string
  | "list" => some list
  | "map" => some map
  | "artifact" => some artifact
  | _ => none

/-- The type that another word for a type means. -/
def ofAlias? (s : String) : Option ValueType :=
  match s with
  | "boolean" => some bool
  | "int" => some integer
  | "float" => some number
  | "double" => some number
  | "array" => some list
  | "object" => some map
  | _ => none

structure Unknown where
  name : String
  deriving DecidableEq, Inhabited

def Unknown.message (e : Unknown) : String := "unknown value type '" ++ e.name ++ "'"

/-- The type that a text names, in capital or small letters and by name or alias. -/
def parse (s : String) : Except Unknown ValueType :=
  let small := Text.lower s
  match ofName? small <|> ofAlias? small with
  | some t => .ok t
  | none => .error ⟨s⟩

theorem ofName?_name (t : ValueType) : ofName? t.name = some t := by cases t <;> rfl

end ValueType

end Printworks
