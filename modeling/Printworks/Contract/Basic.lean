import Printworks.Contract.Slot

/-!
# Contracts

A contract lists the slots of a stage or of a request in the order of their declaration. Contracts
that are put together by `push` have distinct names: a later declaration of a name takes the place
of the earlier one.
-/

namespace Printworks

structure Contract where
  slots : List Slot
  deriving DecidableEq, Inhabited

namespace Contract

def empty : Contract := ⟨[]⟩

instance : EmptyCollection Contract := ⟨empty⟩

/-- Put a slot in the place of the first one of its name, or at the end. -/
def place (slots : List Slot) (slot : Slot) : List Slot :=
  match slots with
  | [] => [slot]
  | s :: rest => if s.name = slot.name then slot :: rest else s :: place rest slot

def push (c : Contract) (slot : Slot) : Contract := ⟨place c.slots slot⟩

def ofSlots (slots : List Slot) : Contract := slots.foldl push empty

def get? (c : Contract) (name : String) : Option Slot := c.slots.find? (fun s => s.name == name)

def contains (c : Contract) (name : String) : Bool := (c.get? name).isSome

def names (c : Contract) : List String := c.slots.map (·.name)

def size (c : Contract) : Nat := c.slots.length

def isEmpty (c : Contract) : Bool := c.slots.isEmpty

/-- Whether every name is declared once. -/
def Distinct (c : Contract) : Prop := c.names.Nodup

instance (c : Contract) : Decidable c.Distinct := inferInstanceAs (Decidable c.names.Nodup)

/-- The groups with the names of their members, both in order of declaration of the members, and
the groups in increasing order of their names. -/
def groups (c : Contract) : Dict (List String) :=
  c.slots.foldl (fun groups slot =>
    match slot.oneOf with
    | none => groups
    | some group => groups.insert group ((groups.get? group).getD [] ++ [slot.name])) ∅

end Contract

end Printworks
