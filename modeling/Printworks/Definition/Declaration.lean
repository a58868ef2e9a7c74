import Printworks.Definition.Basic
import Printworks.Stage.Spec

/-!
# From definitions to declarations

The contracts and stages that a template definition declares. Types get their meaning here, and
defaults are coerced to their types. The first problem found is reported.
-/

namespace Printworks

inductive DefinitionError where
  | unknownType (slot : String) (cause : ValueType.Unknown)
  | missingDefault (slot : String)
  | invalidDefault (slot : String) (cause : Violation)
  deriving DecidableEq, Inhabited

namespace DefinitionError

def message (e : DefinitionError) : String :=
  match e with
  | unknownType slot cause => s!"slot '{slot}': " ++ cause.message
  | missingDefault slot => s!"slot '{slot}' is declared has_default but carries no default"
  | invalidDefault slot cause => s!"slot '{slot}' has an invalid default: " ++ cause.message

def cause? (e : DefinitionError) : Option String :=
  match e with
  | unknownType _ cause => some cause.message
  | missingDefault _ => none
  | invalidDefault _ cause => some cause.message

end DefinitionError

namespace SlotDefinition

/-- How the declared slot behaves when no value is supplied. -/
def kind (d : SlotDefinition) (type : ValueType) : Except DefinitionError SlotKind :=
  match d.effectivePresence with
  | .required => .ok .required
  | .internal => .ok .internal
  | .hasDefault =>
    match d.default with
    | none => .error (.missingDefault d.name)
    | some raw =>
      match Value.coerce d.name raw type with
      | .ok v => .ok (.hasDefault v)
      | .error cause => .error (.invalidDefault d.name cause)

def declare (d : SlotDefinition) : Except DefinitionError Slot :=
  match ValueType.parse d.type with
  | .error cause => .error (.unknownType d.name cause)
  | .ok type =>
    match d.kind type with
    | .error e => .error e
    | .ok kind => .ok ⟨d.name, type, kind, d.requires, d.oneOf⟩

def declareAll (ds : List SlotDefinition) : Except DefinitionError Contract :=
  match ds.mapM declare with
  | .error e => .error e
  | .ok slots => .ok (.ofSlots slots)

end SlotDefinition

def StageDefinition.declare (d : StageDefinition) : Except DefinitionError StageSpec :=
  match SlotDefinition.declareAll d.inputs with
  | .error e => .error e
  | .ok inputs =>
    match SlotDefinition.declareAll d.outputs with
    | .error e => .error e
    | .ok outputs => .ok ⟨d.name, inputs, outputs, d.inputMapping, d.outputMapping⟩

def TemplateDefinition.declare (d : TemplateDefinition) :
    Except DefinitionError (Contract × List StageSpec) :=
  match SlotDefinition.declareAll d.attributes with
  | .error e => .error e
  | .ok attributes =>
    match d.stages.mapM StageDefinition.declare with
    | .error e => .error e
    | .ok stages => .ok (attributes, stages)

end Printworks
