import Printworks.Job.Completion
import Printworks.Job.Manager

/-!
# Asking about jobs

Whoever asks for the status or the artifact of a job, or wants to cancel it, has to pass the
assertion in its record. What is answered comes from the registry.
-/

namespace Printworks

universe u

namespace JobRecord

variable {Store : Type} [Registry Store]

def authorized (reference : String) (capability : Capability) (store : Store) :
    Except JobError JobRecord × Store :=
  match load reference store with
  | (.error e, store) => (.error e, store)
  | (.ok job, store) =>
    if job.access.check capability then (.ok job, store) else (.error .accessDenied, store)

/-- The status of a job, without asking who wants to know. -/
def status (reference : String) (now : Instant) (store : Store) :
    Except JobError JobStatus × Store :=
  match load reference store with
  | (.error e, store) => (.error e, store)
  | (.ok job, store) => (.ok (.ofRecord job now), store)

/-- The status of a job, for a requester. -/
def poll (reference : String) (capability : Capability) (now : Instant) (store : Store) :
    Except JobError JobStatus × Store :=
  match authorized reference capability store with
  | (.error e, store) => (.error e, store)
  | (.ok job, store) => (.ok (.ofRecord job now), store)

/-- The artifact of a job that has succeeded. -/
def artifactOf (job : JobRecord) : Except JobError Artifact :=
  match job.state with
  | .success artifact => .ok artifact
  | .pending _ => .error (.notReady job.reference)
  | .failure error => .error (.failed job.reference error)
  | .cancelled => .error (.cancelled job.reference)

/-- The artifact of a job, for a requester. -/
def artifact (reference : String) (capability : Capability) (store : Store) :
    Except JobError Artifact × Store :=
  match authorized reference capability store with
  | (.error e, store) => (.error e, store)
  | (.ok job, store) => (artifactOf job, store)

end JobRecord

inductive Cancellation where
  | checking
  /-- The job has been told to stop, and the state is being recorded. -/
  | recording (completion : Completion)
  | ended (result : Except JobError Unit)
  deriving Inhabited

namespace Cancellation

variable {Store : Type} [Registry Store] {Implementation : Type u}

def isEnded (c : Cancellation) : Bool := c matches ended _

/-- Where the cancellation stands after a step of recording the state. -/
def afterRecording (c : Completion) : Cancellation :=
  match c with
  | .ended (.ok _) => .ended (.ok ())
  | .ended (.error e) => .ended (.error e)
  | c => .recording c

/-- The next step of a cancellation. A job in a final state is left as it is; any other is told to
stop before its state is recorded. -/
def step (reference : String) (capability : Capability) (now : Instant) (c : Cancellation)
    (m : Manager Implementation) (store : Store) :
    Cancellation × Manager Implementation × Store :=
  match c with
  | .checking =>
    match JobRecord.authorized reference capability store with
    | (.error e, store) => (.ended (.error e), m, store)
    | (.ok job, store) =>
      if job.isTerminal then (.ended (.ok ()), m, store)
      -- The signal goes out before the write: a task that has not begun will find it.
      else (.recording .reading, m.signal reference, store)
  | .recording completion =>
    let (completion, store) := completion.step reference .cancelled now store
    (afterRecording completion, m, store)
  | .ended result => (.ended result, m, store)

end Cancellation

end Printworks
