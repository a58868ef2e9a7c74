import Printworks.Job.Completion

/-!
# The background task of a job

The task marks the record as running, has the pipeline executed and records the result. If the
registry fails, the result is recorded again, at most three times in all and with growing pauses;
after that the job is recorded as a failure instead. The task says nothing to the registry if it
finds the job cancelled before it has begun, except to record that.

Each step uses the registry once at most. The task waits before it is started, where the pipeline
runs and where it pauses; from there `enter`, `executed` and `resume` lead on.
-/

namespace Printworks

/-- How far the task of a job has come. -/
inductive Stance where
  | created
  /-- The record has been written, but the task has yet to be started. -/
  | filed
  | marking
  | executing
  | recording (state : JobState) (attempt : Nat) (completion : Completion)
  /-- The registry has failed, and the task waits before it records the result again. -/
  | pausing (state : JobState) (attempt : Nat)
  /-- A failure is being recorded instead of the result. -/
  | fallingBack (cause : JobError) (completion : Completion)
  | ended (result : Except JobError Unit)
  deriving Inhabited

structure Task where
  /-- The record as it was when the job was submitted. -/
  submitted : JobRecord
  stance : Stance
  deriving Inhabited

namespace Task

/-- How often a result is recorded before the task gives up. -/
def attempts : Nat := 3

/-- The pause after an attempt, in milliseconds. -/
def pauseMs (attempt : Nat) : Nat := 50 * attempt

/-- The task of a job that has just been submitted. -/
def start (submitted : JobRecord) : Task := ⟨submitted, .created⟩

/-- The task of a job whose record has just been written. -/
def file (submitted : JobRecord) : Task := ⟨submitted, .filed⟩

def reference (t : Task) : String := t.submitted.reference

def isFiled (t : Task) : Bool := t.stance matches .filed

def isEnded (t : Task) : Bool := t.stance matches .ended _

/-- Whether the task waits for something other than the registry. -/
def isWaiting (t : Task) : Bool :=
  match t.stance with
  | .filed => true
  | .executing => true
  | .pausing _ _ => true
  | .ended _ => true
  | _ => false

/-- The state that is recorded when the result cannot be. -/
def fallbackState (cause : JobError) : JobState :=
  .failure ("could not record job result: " ++ cause.message)

/-- Where the task stands when recording the result has failed. -/
def afterFailure (state : JobState) (attempt : Nat) (cause : JobError) : Stance :=
  match cause, state with
  | .store _, state =>
    -- Only a failure of the registry is worth another attempt.
    if attempt < attempts then .pausing state attempt
    else match state with
      | .failure _ => .ended (.error cause)
      | _ => .fallingBack cause .reading
  | cause, .failure _ => .ended (.error cause)
  | cause, _ => .fallingBack cause .reading

/-- Where the task stands after a step of recording the result. -/
def afterRecording (state : JobState) (attempt : Nat) (c : Completion) : Stance :=
  match c with
  | .ended (.ok _) => .ended (.ok ())
  | .ended (.error cause) => afterFailure state attempt cause
  | c => .recording state attempt c

/-- Where the task stands after a step of recording a failure instead. -/
def afterFallback (cause : JobError) (c : Completion) : Stance :=
  match c with
  | .ended _ => .ended (.error cause)
  | c => .fallingBack cause c

variable {Store : Type} [Registry Store]

/-- Mark the record as running, provided that it is as it was submitted. -/
def markRunning (t : Task) (store : Store) : Stance × Store :=
  match Registry.compareAndPut (JobRecord.key t.reference) t.submitted.toRecord
      t.submitted.started.toRecord store with
  | (.error e, store) => (.ended (.error (.store e)), store)
  | (.ok false, store) => (.ended (.ok ()), store)
  | (.ok true, store) => (.executing, store)

/-- The next step of the task. `signalled` says whether the job has been told to stop. -/
def step (signalled : Bool) (now : Instant) (t : Task) (store : Store) : Task × Store :=
  match t.stance with
  | .created =>
    ({ t with stance := if signalled then .recording .cancelled 1 .reading else .marking }, store)
  | .marking =>
    let (stance, store) := t.markRunning store
    ({ t with stance := stance }, store)
  | .recording state attempt c =>
    let (c, store) := c.step t.reference state now store
    ({ t with stance := afterRecording state attempt c }, store)
  | .fallingBack cause c =>
    let (c, store) := c.step t.reference (fallbackState cause) now store
    ({ t with stance := afterFallback cause c }, store)
  | _ => (t, store)

/-- The job has been entered in a table, and the task is started. -/
def enter (t : Task) : Task :=
  match t.stance with
  | .filed => start t.submitted
  | _ => t

theorem enter_of_not_isFiled {t : Task} (entered : ¬ t.isFiled = true) : t.enter = t := by
  unfold isFiled at entered
  unfold enter
  split
  next stance => simp [stance] at entered
  next => rfl

/-- The pipeline has been executed and gives the job a final state. -/
def executed (t : Task) (state : JobState) : Task :=
  match t.stance with
  | .executing => { t with stance := .recording state 1 .reading }
  | _ => t

def resume (t : Task) : Task :=
  match t.stance with
  | .pausing state attempt => { t with stance := .recording state (attempt + 1) .reading }
  | _ => t

end Task

end Printworks
