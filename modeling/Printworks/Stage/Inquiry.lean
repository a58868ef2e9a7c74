import Printworks.Stage.Workspace

/-!
# What a stage may ask

The questions that a running stage can put to its workspace. None of them changes anything.
-/

namespace Printworks

inductive Inquiry where
  | input (slot : String)
  | optionalInput (slot : String)
  | inputString (slot : String)
  | inputInteger (slot : String)
  | inputNumber (slot : String)
  | inputBool (slot : String)
  /-- Which stage of which execution this is. -/
  | identity
  | outputs
  deriving DecidableEq, Inhabited

/-- The answer to a question. -/
inductive Answer where
  | value (v : Value)
  | nothing
  | string (s : String)
  | integer (n : Int64)
  | number (x : Double)
  | bool (b : Bool)
  | identity (executionId stage : String)
  | outputs (values : Dict Value)
  deriving DecidableEq, Inhabited

def Workspace.ask (w : Workspace) (inquiry : Inquiry) : Except StageError Answer :=
  match inquiry with
  | .input slot => (w.input slot).map .value
  | .optionalInput slot => (w.optionalInput slot).map (fun v => v.elim .nothing .value)
  | .inputString slot => (w.inputString slot).map .string
  | .inputInteger slot => (w.inputInteger slot).map .integer
  | .inputNumber slot => (w.inputNumber slot).map .number
  | .inputBool slot => (w.inputBool slot).map .bool
  | .identity => .ok (.identity w.executionId w.spec.name)
  | .outputs => .ok (.outputs w.outputs)

end Printworks
