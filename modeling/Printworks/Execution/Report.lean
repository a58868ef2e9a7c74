import Printworks.Time.Reading
import Printworks.Value.Tagged

/-!
# Reports

What is known about an execution and each of its stages, and the sentence that says why an
execution did not complete.
-/

namespace Printworks

inductive StageState where
  /-- Some of the stages that it waits for are not done. -/
  | waiting
  | ready
  | running
  | done
  | failed
  /-- It will not start. -/
  | skipped
  deriving DecidableEq, Inhabited

namespace StageState

def isTerminal (s : StageState) : Bool := s == done || s == failed || s == skipped

def name (s : StageState) : String :=
  match s with
  | waiting => "waiting"
  | ready => "ready"
  | running => "running"
  | done => "done"
  | failed => "failed"
  | skipped => "skipped"

def all : List StageState := [waiting, ready, running, done, failed, skipped]

def decode? (j : Json) : Option StageState :=
  j.bareName?.bind (fun n => all.find? (fun s => s.name == n))

def encode (s : StageState) : Json := .text s.name

end StageState

structure StageReport where
  stage : String
  state : StageState
  startedAt : Option Instant
  finishedAt : Option Instant
  error : Option String
  deriving DecidableEq, Inhabited

namespace StageReport

/-- The report of a stage of which nothing has happened. -/
def waiting (stage : String) : StageReport := ⟨stage, .waiting, none, none, none⟩

def encode (r : StageReport) : Json :=
  .record [some ("stage", .text r.stage), some ("state", r.state.encode),
    Json.entry? "started_at" (r.startedAt.map Instant.encode),
    Json.entry? "finished_at" (r.finishedAt.map Instant.encode),
    Json.entry? "error" (r.error.map .text)]

def decode? (j : Json) : Option StageReport := do
  let f ← j.fields? ["stage", "state", "started_at", "finished_at", "error"]
  let stage ← f.required 0 Json.text?
  let state ← f.required 1 StageState.decode?
  let startedAt ← f.nullable 2 Instant.decode?
  let finishedAt ← f.nullable 3 Instant.decode?
  let error ← f.nullable 4 Json.text?
  return ⟨stage, state, startedAt, finishedAt, error⟩

end StageReport

inductive Outcome where
  | completed
  | failed
  | cancelled
  deriving DecidableEq, Inhabited

namespace Outcome

def name (o : Outcome) : String :=
  match o with
  | completed => "completed"
  | failed => "failed"
  | cancelled => "cancelled"

def all : List Outcome := [completed, failed, cancelled]

def decode? (j : Json) : Option Outcome :=
  j.bareName?.bind (fun n => all.find? (fun o => o.name == n))

def encode (o : Outcome) : Json := .text o.name

end Outcome

structure ExecutionReport where
  executionId : String
  outcome : Outcome
  values : Dict Value
  /-- One report for each stage, in order of declaration. -/
  stages : List StageReport
  deriving DecidableEq, Inhabited

namespace ExecutionReport

def isSuccess (r : ExecutionReport) : Bool := r.outcome == .completed

def stage? (r : ExecutionReport) (name : String) : Option StageReport :=
  r.stages.find? (fun s => s.stage == name)

def stagesIn (r : ExecutionReport) (state : StageState) : List String :=
  (r.stages.filter (fun s => s.state == state)).map (·.stage)

/-- The sentence on a stage that failed. -/
def failureText (s : StageReport) : String :=
  "stage '" ++ s.stage ++ "' failed: " ++ s.error.getD "unknown error"

/-- The stages that failed, with their errors, and the stages that were skipped. -/
def stageDetail (r : ExecutionReport) : String :=
  let failures := (r.stages.filter (fun s => s.state == .failed)).map failureText
  let skipped := r.stagesIn .skipped
  let failed := "; ".intercalate failures
  if skipped.isEmpty then failed
  else
    let gap := if failed.isEmpty then "" else " "
    failed ++ gap ++ "(skipped: " ++ ", ".intercalate skipped ++ ")"

/-- Why the execution did not complete, if it did not. -/
def failureSummary (r : ExecutionReport) : Option String :=
  let detail := r.stageDetail
  match r.outcome with
  | .completed => none
  | .failed => some detail
  | .cancelled =>
    some (if detail.isEmpty then "execution cancelled" else "execution cancelled: " ++ detail)

def encode (r : ExecutionReport) : Json :=
  .object [("execution_id", .text r.executionId), ("outcome", r.outcome.encode),
    ("values", Value.encodeDict r.values), ("stages", .array (r.stages.map StageReport.encode))]

def decode? (j : Json) : Option ExecutionReport := do
  let f ← j.fields? ["execution_id", "outcome", "values", "stages"]
  let executionId ← f.required 0 Json.text?
  let outcome ← f.required 1 Outcome.decode?
  let values ← f.required 2 (Json.map? Value.decode?)
  let stages ← f.required 3 (Json.list? StageReport.decode?)
  return ⟨executionId, outcome, values, stages⟩

end ExecutionReport

end Printworks
