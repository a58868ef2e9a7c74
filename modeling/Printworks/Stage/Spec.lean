import Printworks.Contract.Document

/-!
# Declarations of stages

A stage has a contract for what it reads and one for what it writes. Slots go by names of their own;
a mapping says which name of the shared values a slot reads or writes where the two differ.
-/

namespace Printworks

structure StageSpec where
  name : String
  inputs : Contract
  outputs : Contract
  /-- The names that input slots read, where they differ from the names of the slots. -/
  inputMapping : Dict String
  /-- The names that output slots write, where they differ from the names of the slots. -/
  outputMapping : Dict String
  deriving DecidableEq, Inhabited

namespace StageSpec

/-- The name that an input slot reads. -/
def inputName (s : StageSpec) (slot : String) : String := (s.inputMapping.get? slot).getD slot

/-- The name that an output slot writes. -/
def outputName (s : StageSpec) (slot : String) : String := (s.outputMapping.get? slot).getD slot

/-- Whether a slot writes a name that others may rely on: it is for more than diagnosis, or its
name has been chosen by a mapping. -/
def isExplicit (s : StageSpec) (slot : Slot) : Bool :=
  !slot.isInternal || s.outputMapping.contains slot.name

def encode (s : StageSpec) : Json :=
  .object [("name", .text s.name), ("inputs", s.inputs.encode), ("outputs", s.outputs.encode),
    ("input_mapping", .ofNames s.inputMapping), ("output_mapping", .ofNames s.outputMapping)]

def decode? (j : Json) : Option StageSpec := do
  let f ← j.fields? ["name", "inputs", "outputs", "input_mapping", "output_mapping"]
  let name ← f.required 0 Json.text?
  let inputs ← f.required 1 Contract.decode?
  let outputs ← f.required 2 Contract.decode?
  let inputMapping ← f.orDefault 3 ∅ (Json.map? Json.text?)
  let outputMapping ← f.orDefault 4 ∅ (Json.map? Json.text?)
  return ⟨name, inputs, outputs, inputMapping, outputMapping⟩

end StageSpec

end Printworks
