import Printworks.Value.Tagged

/-!
# Slots

A slot is a named, typed place for a value.
-/

namespace Printworks

/-- How a slot behaves when no value is supplied for it. -/
inductive SlotKind where
  /-- A value has to be supplied, unless the slot belongs to a group. -/
  | required
  /-- The given value is used. -/
  | hasDefault (value : Value)
  /-- Nothing happens: the value is of interest for diagnosis only. -/
  | internal
  deriving DecidableEq, Inhabited

/-- A named, typed place for a value. -/
structure Slot where
  name : String
  type : ValueType
  kind : SlotKind
  /-- The slots that have to be supplied along with this one. -/
  requires : List String
  /-- The group of slots of which exactly one has to be supplied. -/
  oneOf : Option String
  deriving DecidableEq, Inhabited

namespace Slot

def plain (name : String) (type : ValueType) (kind : SlotKind) : Slot :=
  ⟨name, type, kind, [], none⟩

def default? (s : Slot) : Option Value :=
  match s.kind with
  | .hasDefault value => some value
  | _ => none

/-- Whether a value has to be supplied for the slot by itself. The members of a group are only
required as a group. -/
def isRequired (s : Slot) : Bool := s.kind == .required && s.oneOf.isNone

def isInternal (s : Slot) : Bool := s.kind == .internal

end Slot

end Printworks
