import Printworks.ValueType

/-!
# Configuration errors

What can be wrong with a set of stages before any of them runs.
-/

namespace Printworks

inductive GraphError where
  | duplicateStage (stage : String)
  | unknownMapping (stage slot : String)
  | ambiguousProducer (name : String) (stages : List String)
  | shadowsAttribute (stage name : String)
  /-- Stages wait for each other. The first one is named again at the end. -/
  | cycle (stages : List String)
  | unsatisfiableInput (stage name : String)
  /-- No member of a group of inputs reads a name that something provides. -/
  | unsatisfiableGroup (stage group : String) (members : List String)
  | typeMismatch (name producer consumer : String) (produced expected : ValueType)
  deriving DecidableEq, Inhabited

namespace GraphError

def message (e : GraphError) : String :=
  match e with
  | duplicateStage stage => s!"duplicate stage name '{stage}'"
  | unknownMapping stage slot => s!"stage '{stage}' maps undeclared slot '{slot}'"
  | ambiguousProducer name stages =>
    s!"'{name}' is produced by more than one stage: " ++ ", ".intercalate stages
  | shadowsAttribute stage name => s!"stage '{stage}' output '{name}' shadows a top-level attribute"
  | cycle stages => "dependency cycle: " ++ " -> ".intercalate stages
  | unsatisfiableInput stage name =>
    s!"stage '{stage}' requires '{name}', which no stage or attribute provides"
  | unsatisfiableGroup stage _ members =>
    s!"stage '{stage}' requires one of [" ++ ", ".intercalate members ++
      "], none of which is provided"
  | typeMismatch name producer consumer produced expected =>
    s!"'{name}' is " ++ produced.name ++ s!" from '{producer}' but stage '{consumer}' expects " ++
      expected.name

def summary (errors : List GraphError) : String :=
  "invalid pipeline: " ++ "; ".intercalate (errors.map message)

end GraphError

end Printworks
