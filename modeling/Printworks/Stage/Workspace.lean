import Printworks.Stage.Error
import Printworks.Stage.Spec

/-!
# What a running stage sees

A workspace holds the inputs of a stage, bound to its contract, and the outputs that it has set so
far. Nothing is stored while the stage runs: when it has succeeded, `delivery` says what to store.
-/

namespace Printworks

/-- The inputs of a stage and its outputs so far, by slot. -/
structure Workspace where
  executionId : String
  spec : StageSpec
  inputs : Dict Value
  outputs : Dict Value
  deriving DecidableEq, Inhabited

namespace Workspace

/-- The workspace of a stage that is about to run. -/
def start (executionId : String) (spec : StageSpec) (inputs : Dict Value) : Workspace :=
  ⟨executionId, spec, inputs, ∅⟩

/-- An input that may have no value. -/
def optionalInput (w : Workspace) (slot : String) : Except StageError (Option Value) :=
  if w.spec.inputs.contains slot then .ok (w.inputs.get? slot) else .error (.undeclaredInput slot)

/-- An input that has to have a value. -/
def input (w : Workspace) (slot : String) : Except StageError Value :=
  match w.optionalInput slot with
  | .error e => .error e
  | .ok none => .error (.missingInput slot)
  | .ok (some v) => .ok v

/-- An input seen as what a type holds. -/
def inputAs {α : Type} (w : Workspace) (slot : String) (type : ValueType)
    (view : Value → Option α) : Except StageError α :=
  match w.input slot with
  | .error e => .error e
  | .ok v =>
    match view v with
    | some a => .ok a
    | none => .error (.wrongType slot type v.type)

def inputString (w : Workspace) (slot : String) : Except StageError String :=
  w.inputAs slot .string Value.string?

def inputInteger (w : Workspace) (slot : String) : Except StageError Int64 :=
  w.inputAs slot .integer Value.integer?

def inputNumber (w : Workspace) (slot : String) : Except StageError Double :=
  w.inputAs slot .number Value.number?

def inputBool (w : Workspace) (slot : String) : Except StageError Bool :=
  w.inputAs slot .bool Value.bool?

/-- Set an output. It has to be declared, of its type, and not set before. -/
def setOutput (w : Workspace) (slot : String) (value : Value) : Except StageError Workspace :=
  match w.spec.outputs.get? slot with
  | none => .error (.undeclaredOutput slot)
  | some declared =>
    if !value.type.satisfies declared.type then
      .error (.wrongType slot declared.type value.type)
    else if w.outputs.contains slot then .error (.duplicateOutput slot)
    else .ok { w with outputs := w.outputs.insert slot value }

/-- The outputs with defaults for the slots that have not been set. Fails at the first required
slot that has not been set. -/
def completed (slots : List Slot) (outputs : Dict Value) : Except StageError (Dict Value) :=
  match slots with
  | [] => .ok outputs
  | slot :: rest =>
    if outputs.contains slot.name then completed rest outputs
    else match slot.default? with
      | some default => completed rest (outputs.insert slot.name default)
      | none =>
        if slot.isRequired then .error (.missingOutput slot.name) else completed rest outputs

/-- The write of an output, under the name that its slot writes. -/
def write (spec : StageSpec) (slot : String) (value : Value) : Write :=
  ⟨spec.outputName slot, value, (spec.outputs.get? slot).any Slot.isInternal⟩

/-- What a stage that has succeeded gives to be stored, in increasing order of its slots. -/
def delivery (w : Workspace) : Except StageError (List Write) :=
  match completed w.spec.outputs.slots w.outputs with
  | .error e => .error e
  | .ok outputs => .ok (outputs.toList.map (fun e => write w.spec e.1 e.2))

end Workspace

namespace StageSpec

/-- Read one input, besides those that have been read. -/
def readInput (s : StageSpec) (values : Dict Value) (read : Dict Value) (slot : Slot) : Dict Value :=
  match values.get? (s.inputName slot.name) with
  | none => read
  | some v => read.insert slot.name v

/-- Read all inputs at once. -/
def readInputs (s : StageSpec) (values : Dict Value) : Dict Value :=
  s.inputs.slots.foldl (s.readInput values) ∅

/-- Bind what has been read for the inputs. -/
def bindRead (s : StageSpec) (read : Dict Value) : Except StageError (Dict Value) :=
  match (s.inputs.bindValues read).toExcept with
  | .ok inputs => .ok inputs
  | .error violations => .error (.contract violations)

def bindInputs (s : StageSpec) (values : Dict Value) : Except StageError (Dict Value) :=
  s.bindRead (s.readInputs values)

end StageSpec

end Printworks
