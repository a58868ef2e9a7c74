import Printworks.Json.Basic

/-!
# Records

A record is a map of plain values by field. Arrays and objects are refused when a record is
written.
-/

namespace Printworks

abbrev Record := Dict Json

/-- Whether a value is neither an array nor an object. -/
def Json.isPlain (j : Json) : Bool :=
  match j with
  | .array _ => false
  | .object _ => false
  | _ => true

/-- What a registry may answer instead of doing what it was asked. -/
inductive StoreError where
  /-- A field of a record to be written holds an array or an object. -/
  | nonPrimitive (field : String)
  /-- What is stored for a key is no record. -/
  | corrupt (key message : String)
  deriving DecidableEq, Inhabited

def StoreError.message (e : StoreError) : String :=
  match e with
  | nonPrimitive field => s!"record field '{field}' is not a primitive value"
  | corrupt key message => s!"stored record for '{key}' is corrupt: {message}"

namespace Record

def nestedField? (r : Record) : Option String :=
  (r.toList.find? (fun e => !e.2.isPlain)).map (·.1)

/-- Whether all values are plain. -/
def isFlat (r : Record) : Bool := (nestedField? r).isNone

/-- Check that all values are plain. -/
def ensureFlat (r : Record) : Except StoreError Unit :=
  match nestedField? r with
  | none => .ok ()
  | some field => .error (.nonPrimitive field)

/-- Whether two records have the same fields with equal values. -/
def agrees (a b : Record) : Bool := Json.agreesEntries a.toList b.toList

/-- Do something with a store if a record is flat, and leave the store as it is otherwise. -/
def ifFlat {Store α : Type} (r : Record) (store : Store) (result : Except StoreError α × Store) :
    Except StoreError α × Store :=
  match ensureFlat r with
  | .error e => (.error e, store)
  | .ok () => result

end Record

end Printworks
