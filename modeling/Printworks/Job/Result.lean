import Printworks.Execution.Report
import Printworks.Job.State

/-!
# Results of jobs

The final state that the report of an execution gives to its job.
-/

namespace Printworks.JobState

/-- The state of a job whose stages are all done: it has succeeded if they left an artifact, or the
location of one. -/
def ofArtifact (slot : String) (value : Option Value) : JobState :=
  match value with
  | some (.artifact artifact) => .success artifact
  | some (.string location) => .success (.at location)
  | _ => .failure s!"artifact '{slot}' was not produced"

/-- The state of a job whose execution has ended. -/
def ofReport (artifactSlot : String) (report : ExecutionReport) : JobState :=
  match report.outcome with
  | .completed => ofArtifact artifactSlot (report.values.get? artifactSlot)
  | .failed => .failure (report.failureSummary.getD "execution failed")
  | .cancelled => .cancelled

end Printworks.JobState
