import Printworks.Job.Record

/-!
# The status of a job

What a requester sees of a job at a moment.
-/

namespace Printworks

/-- What a requester sees of a job. -/
structure JobStatus where
  reference : String
  appId : String
  state : JobState
  submittedAt : Instant
  completedAt : Option Instant
  requestCount : Nat
  fileName : String
  /-- The nanoseconds since the submission, or those that the job took. -/
  elapsed : Nat
  deriving DecidableEq, Inhabited

namespace JobStatus

/-- The status that a record shows at a moment. A submission that lies ahead has taken no time. -/
def ofRecord (r : JobRecord) (now : Instant) : JobStatus :=
  ⟨r.reference, r.appId, r.state, r.submittedAt, r.completedAt, r.requestCount, r.fileName,
    (r.elapsed now).toNat⟩

def isTerminal (s : JobStatus) : Bool := s.state.isTerminal

def durationDocument (nanos : Nat) : Json :=
  .object [("secs", .int (nanos / Instant.secondNanos : Nat)),
    ("nanos", .int (nanos % Instant.secondNanos : Nat))]

def encode (s : JobStatus) : Json :=
  .object ([("reference_id", .text s.reference), ("app_id", .text s.appId)] ++ s.state.entries ++
    [("submitted_at", .text s.submittedAt.text)] ++
    (s.completedAt.map (fun t => ("completed_at", Json.text t.text))).toList ++
    [("request_count", .int s.requestCount), ("file_name", .text s.fileName),
      ("elapsed", durationDocument s.elapsed)])

end JobStatus

end Printworks
