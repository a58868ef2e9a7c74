import Printworks.Contract.Violation
import Printworks.Value.Tagged
import Printworks.Json.Printer
import Printworks.Decimal.Reading
import Printworks.Text.Blank

/-!
# Coercion

Requests often come from forms, so a text is read as a truth value or a number where the slot asks
for one, and a number or truth value is written as a text where the slot asks for that. Nothing else
changes its kind.
-/

namespace Printworks

def Json.typeName (j : Json) : String :=
  match j with
  | .null => "null"
  | .bool _ => "bool"
  | .number (.int _) => "integer"
  | .number (.double _) => "number"
  | .text _ => "string"
  | .array _ => "list"
  | .object _ => "map"

namespace Value

/-- The truth value of a document: its own, or the one that a text names. -/
def coerceBool? (j : Json) : Option Value :=
  match j with
  | .bool b => some (bool b)
  | .text s =>
    match Text.lower s with
    | "true" => some (bool true)
    | "false" => some (bool false)
    | _ => none
  | _ => none

/-- The integer of a document: its own, or the one that a text writes between blanks. -/
def coerceInteger? (j : Json) : Option Value :=
  match j with
  | .number (.int n) => (Json.word? n).map integer
  | .text s => ((readInt? (Text.trim s.toList)).bind Json.word?).map integer
  | _ => none

/-- The number of a document: its own, or the one that a text writes between blanks. -/
def coerceNumber? (j : Json) : Option Value :=
  match j with
  | .text s => (Double.read? (Text.trim s.toList)).map number
  | j => j.double?.map number

/-- The text of a document: its own, or that of a number or truth value. -/
def coerceString? (j : Json) : Option Value :=
  match j with
  | .text s => some (string s)
  | .number n => some (string n.text)
  | .bool b => some (string (if b then "true" else "false"))
  | _ => none

/-- The artifact of a document: a location, or the parts of a reference by name. -/
def coerceArtifact? (j : Json) : Option Value :=
  match j with
  | .text s => some (artifact (.at s))
  | .object entries => (Artifact.decode? (.object entries)).map artifact
  | _ => none

def coerce? (j : Json) (expected : ValueType) : Option Value :=
  match expected with
  | .any => some (ofJson j)
  | .bool => coerceBool? j
  | .integer => coerceInteger? j
  | .number => coerceNumber? j
  | .string => coerceString? j
  | .list =>
    match j with
    | .array items => some (ofJson (.array items))
    | _ => none
  | .map =>
    match j with
    | .object entries => some (ofJson (.object entries))
    | _ => none
  | .artifact => coerceArtifact? j

/-- The value of a document at the type of a slot, or what is wrong with it. -/
def coerce (slot : String) (j : Json) (expected : ValueType) : Except Violation Value :=
  match coerce? j expected with
  | some v => .ok v
  | none => .error (.typeMismatch slot expected j.typeName)

def check (slot : String) (v : Value) (expected : ValueType) : Except Violation Unit :=
  if v.type.satisfies expected then .ok ()
  else .error (.typeMismatch slot expected v.type.name)

end Value

end Printworks
