import Printworks.Json.Schema
import Printworks.Json.Shape

/-!
# Template definitions

What a template file says: the attributes that a request may set, the stages that make the print,
and who may use it. Types are names here, and stages name the kind of their implementation; what
these mean is decided later.
-/

namespace Printworks

/-- How a defined slot treats absence. -/
inductive Presence where
  | required
  | hasDefault
  | internal
  deriving DecidableEq, Inhabited

namespace Presence

def name (p : Presence) : String :=
  match p with
  | required => "required"
  | hasDefault => "has_default"
  | internal => "internal"

def ofName? (s : String) : Option Presence :=
  match s with
  | "required" => some required
  | "has_default" => some hasDefault
  | "internal" => some internal
  | _ => none

def encode (p : Presence) : Json := .text p.name

def decode? (j : Json) : Option Presence := j.bareName?.bind ofName?

end Presence

structure SlotDefinition where
  name : String
  type : String
  /-- How the slot treats absence, if the file says so. -/
  presence : Option Presence
  /-- The default, before it is given its type. -/
  default : Option Json
  requires : List String
  oneOf : Option String
  deriving DecidableEq, Inhabited

namespace SlotDefinition

/-- How the slot treats absence: as the file says, else a slot with a default has a default and
every other one is required. -/
def effectivePresence (d : SlotDefinition) : Presence :=
  match d.presence with
  | some p => p
  | none => if d.default.isSome then .hasDefault else .required

def encode (d : SlotDefinition) : Json :=
  .record [some ("name", .text d.name), some ("type", .text d.type),
    Json.entry? "kind" (d.presence.map Presence.encode), Json.entry? "default" d.default,
    Json.listEntry? "requires" d.requires, Json.entry? "one_of" (d.oneOf.map .text)]

def partNames : List String := ["name", "type", "kind", "default", "requires", "one_of"]

def shape : Json.Shape := .record (partNames.map (·, .whole))

def decode? (j : Json) : Option SlotDefinition := do
  let f ← j.fields? partNames
  let name ← f.required 0 Json.text?
  let type ← f.orDefault 1 "any" Json.text?
  let presence ← f.optional 2 Presence.decode?
  let default ← f.optional 3 (fun j => some j.canonical)
  let requires ← f.orDefault 4 [] (Json.list? Json.text?)
  let oneOf ← f.optional 5 Json.text?
  return ⟨name, type, presence, default, requires, oneOf⟩

end SlotDefinition

structure StageDefinition where
  name : String
  kind : String
  inputs : List SlotDefinition
  outputs : List SlotDefinition
  inputMapping : Dict String
  outputMapping : Dict String
  deriving DecidableEq, Inhabited

namespace StageDefinition

def mappingEntry? (name : String) (mapping : Dict String) : Option (String × Json) :=
  if mapping.isEmpty then none else some (name, .ofNames mapping)

def encode (d : StageDefinition) : Json :=
  .record [some ("name", .text d.name), some ("kind", .text d.kind),
    some ("inputs", .array (d.inputs.map SlotDefinition.encode)),
    some ("outputs", .array (d.outputs.map SlotDefinition.encode)),
    mappingEntry? "input_mapping" d.inputMapping, mappingEntry? "output_mapping" d.outputMapping]

def parts : List (String × Json.Shape) := [("name", .whole), ("kind", .whole),
  ("inputs", .list SlotDefinition.shape), ("outputs", .list SlotDefinition.shape),
  ("input_mapping", .whole), ("output_mapping", .whole)]

def decode? (j : Json) : Option StageDefinition := do
  let f ← j.fields? (parts.map (·.1))
  let name ← f.required 0 Json.text?
  let kind ← f.required 1 Json.text?
  let inputs ← f.orDefault 2 [] (Json.list? SlotDefinition.decode?)
  let outputs ← f.orDefault 3 [] (Json.list? SlotDefinition.decode?)
  let inputMapping ← f.orDefault 4 ∅ (Json.map? Json.text?)
  let outputMapping ← f.orDefault 5 ∅ (Json.map? Json.text?)
  return ⟨name, kind, inputs, outputs, inputMapping, outputMapping⟩

end StageDefinition

/-- A template as its file defines it. -/
structure TemplateDefinition where
  /-- The name under which jobs are submitted. -/
  appId : String
  attributes : List SlotDefinition
  stages : List StageDefinition
  artifactSlot : String
  /-- The template of the file name for downloads. -/
  outputFilename : Option String
  access : List String
  /-- The time after which a job is cancelled, in milliseconds. -/
  timeoutMs : Option Nat
  /-- Whether parameters that are not declared are refused. -/
  strictParameters : Bool
  deriving DecidableEq, Inhabited

namespace TemplateDefinition

def stage? (d : TemplateDefinition) (name : String) : Option StageDefinition :=
  d.stages.find? (fun s => s.name == name)

def encode (d : TemplateDefinition) : Json :=
  .record [some ("app_id", .text d.appId),
    some ("attributes", .array (d.attributes.map SlotDefinition.encode)),
    some ("stages", .array (d.stages.map StageDefinition.encode)),
    some ("artifact_slot", .text d.artifactSlot),
    Json.entry? "output_filename" (d.outputFilename.map .text),
    Json.listEntry? "access" d.access,
    Json.entry? "timeout_ms" (d.timeoutMs.map (fun ms => .int ms)),
    some ("strict_parameters", .bool d.strictParameters)]

def parts : List (String × Json.Shape) := [("app_id", .whole),
  ("attributes", .list SlotDefinition.shape), ("stages", .list (.record StageDefinition.parts)),
  ("artifact_slot", .whole), ("output_filename", .whole), ("access", .whole),
  ("timeout_ms", .whole), ("strict_parameters", .whole)]

def decode? (j : Json) : Option TemplateDefinition := do
  let f ← j.fields? (parts.map (·.1))
  let appId ← f.required 0 Json.text?
  let attributes ← f.orDefault 1 [] (Json.list? SlotDefinition.decode?)
  let stages ← f.required 2 (Json.list? StageDefinition.decode?)
  let artifactSlot ← f.orDefault 3 "artifact" Json.text?
  let outputFilename ← f.optional 4 Json.text?
  let access ← f.orDefault 5 [] (Json.list? Json.text?)
  let timeoutMs ← f.optional 6 Json.nat?
  let strictParameters ← f.orDefault 7 true Json.bool?
  return ⟨appId, attributes, stages, artifactSlot, outputFilename, access, timeoutMs,
    strictParameters⟩

/-- The definition in a text. Parts that are not known are passed over. -/
def read? (text : String) : Option TemplateDefinition :=
  (Json.readOnly? (.record parts) text).bind decode?

end TemplateDefinition

end Printworks
