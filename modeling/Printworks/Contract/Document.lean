import Printworks.Contract.Binding

/-!
# Documents of slots and contracts

`encode` writes a declaration and `decode?` reads it back. A contract that is read keeps all its
slots, equal names included.
-/

namespace Printworks

namespace SlotKind

def encode (k : SlotKind) : Json :=
  match k with
  | required => .object [("kind", .text "required")]
  | hasDefault value => .object [("kind", .text "has_default"), ("default", value.encode)]
  | internal => .object [("kind", .text "internal")]

/-- The kind of a name and a default. Only a slot that has a default may carry one. -/
def ofParts? (name : String) (default : Option Json) (read : Json → Option Value) :
    Option SlotKind :=
  match name, default with
  | "required", none => some required
  | "required", some .null => some required
  | "internal", none => some internal
  | "internal", some .null => some internal
  | "has_default", some value => (read value).map hasDefault
  | _, _ => none

/-- The kind of a document. In an object the default stands before the name that says what it is,
and so its tags are read loosely. -/
def decode? (j : Json) : Option SlotKind :=
  match j with
  | .object entries => do
    let name ← ← Json.part? entries "kind"
    let default ← Json.part? entries "default"
    ofParts? (← name.bareName?) default (Value.decodeAs? true)
  | .array [name, default] => do ofParts? (← name.bareName?) (some default) Value.decode?
  | _ => none

end SlotKind

namespace Slot

def encode (s : Slot) : Json :=
  .record [some ("name", .text s.name), some ("type", s.type.encode), some ("kind", s.kind.encode),
    Json.listEntry? "requires" s.requires, Json.entry? "one_of" (s.oneOf.map .text)]

def decode? (j : Json) : Option Slot := do
  let f ← j.fields? ["name", "type", "kind", "requires", "one_of"]
  let name ← f.required 0 Json.text?
  let type ← f.required 1 ValueType.decode?
  let kind ← f.required 2 SlotKind.decode?
  let requires ← f.orDefault 3 [] (Json.list? Json.text?)
  let oneOf ← f.optional 4 Json.text?
  return ⟨name, type, kind, requires, oneOf⟩

end Slot

namespace Contract

def encode (c : Contract) : Json := .array (c.slots.map Slot.encode)

def decode? (j : Json) : Option Contract := (Json.list? Slot.decode? j).map (⟨·⟩)

end Contract

namespace ExtraParameters

def name (p : ExtraParameters) : String :=
  match p with
  | reject => "reject"
  | warn => "warn"

def ofName? (s : String) : Option ExtraParameters :=
  match s with
  | "reject" => some reject
  | "warn" => some warn
  | _ => none

def decode? (j : Json) : Option ExtraParameters := j.bareName?.bind ofName?

end ExtraParameters

end Printworks
