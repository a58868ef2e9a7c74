import Printworks.Json.Schema

/-!
# Events

An execution tells of every change of a stage, in the order in which the changes happen.
-/

namespace Printworks

inductive Event where
  | executionStarted (executionId : String) (stages : Nat)
  | stageStarted (executionId stage : String)
  /-- A stage has stored its outputs under the given names. -/
  | stageCompleted (executionId stage : String) (outputs : List String)
  | stageFailed (executionId stage error : String)
  | stageSkipped (executionId stage reason : String)
  | executionCompleted (executionId : String)
  | executionFailed (executionId error : String)
  | executionCancelled (executionId : String)
  deriving DecidableEq, Inhabited

namespace Event

def executionId (e : Event) : String :=
  match e with
  | executionStarted id _ => id
  | stageStarted id _ => id
  | stageCompleted id _ _ => id
  | stageFailed id _ _ => id
  | stageSkipped id _ _ => id
  | executionCompleted id => id
  | executionFailed id _ => id
  | executionCancelled id => id

/-- The document of an event: its name, and its parts. -/
def encode (e : Event) : Json :=
  let event (name : String) (parts : List (String × Json)) : Json :=
    .object [(name, .object (("execution_id", .text e.executionId) :: parts))]
  match e with
  | executionStarted _ stages => event "ExecutionStarted" [("stages", .int stages)]
  | stageStarted _ stage => event "StageStarted" [("stage", .text stage)]
  | stageCompleted _ stage outputs =>
    event "StageCompleted" [("stage", .text stage), ("outputs", .texts outputs)]
  | stageFailed _ stage error =>
    event "StageFailed" [("stage", .text stage), ("error", .text error)]
  | stageSkipped _ stage reason =>
    event "StageSkipped" [("stage", .text stage), ("reason", .text reason)]
  | executionCompleted _ => event "ExecutionCompleted" []
  | executionFailed _ error => event "ExecutionFailed" [("error", .text error)]
  | executionCancelled _ => event "ExecutionCancelled" []

def ofParts? (name : String) (j : Json) : Option Event :=
  match name with
  | "ExecutionStarted" => do
    let f ← j.fields? ["execution_id", "stages"]
    return executionStarted (← f.required 0 Json.text?) (← f.required 1 Json.nat?)
  | "StageStarted" => do
    let f ← j.fields? ["execution_id", "stage"]
    return stageStarted (← f.required 0 Json.text?) (← f.required 1 Json.text?)
  | "StageCompleted" => do
    let f ← j.fields? ["execution_id", "stage", "outputs"]
    return stageCompleted (← f.required 0 Json.text?) (← f.required 1 Json.text?)
      (← f.required 2 (Json.list? Json.text?))
  | "StageFailed" => do
    let f ← j.fields? ["execution_id", "stage", "error"]
    return stageFailed (← f.required 0 Json.text?) (← f.required 1 Json.text?)
      (← f.required 2 Json.text?)
  | "StageSkipped" => do
    let f ← j.fields? ["execution_id", "stage", "reason"]
    return stageSkipped (← f.required 0 Json.text?) (← f.required 1 Json.text?)
      (← f.required 2 Json.text?)
  | "ExecutionCompleted" => do
    let f ← j.fields? ["execution_id"]
    return executionCompleted (← f.required 0 Json.text?)
  | "ExecutionFailed" => do
    let f ← j.fields? ["execution_id", "error"]
    return executionFailed (← f.required 0 Json.text?) (← f.required 1 Json.text?)
  | "ExecutionCancelled" => do
    let f ← j.fields? ["execution_id"]
    return executionCancelled (← f.required 0 Json.text?)
  | _ => none

def decode? (j : Json) : Option Event :=
  match j.alternative? with
  | some (name, some parts) => ofParts? name parts
  | _ => none

end Event

end Printworks
