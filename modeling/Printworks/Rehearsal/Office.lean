import Printworks.Job.Inquiry
import Printworks.Registry.Faulty
import Printworks.Rehearsal.Floor

/-!
# The office

Managers that take jobs and have their pipelines executed on a floor. All managers share one
registry and the permits of the floor; only the newest one is asked for anything, but the tasks of
the others go on.

The task of a job and its deadline stand in the queue of the floor like everybody else, the deadline
of a job before its task. A task that stands first takes all its steps until it has to wait.
-/

namespace Printworks.Rehearsal

/-- A job whose task has been started. -/
structure Assignment where
  /-- The number of the manager that took the job. -/
  manager : Nat
  task : Task
  template : Template Script
  seed : Dict Value
  /-- The milliseconds after which the job is told to stop, until they are being counted. -/
  timeout : Option Nat
  /-- The millisecond at which the task goes on after a pause. -/
  resumeAt : Option Nat
  /-- The number of the execution on the floor, once there is one. -/
  run : Option Nat

def Assignment.reference (a : Assignment) : String := a.task.reference

/-- Managers with a registry and a floor. -/
structure Office (Store : Type) where
  catalog : Catalog Script
  /-- All managers, the newest one last. -/
  managers : List (Manager Script)
  /-- The jobs, in the order in which they were submitted. -/
  assignments : List Assignment
  floor : Floor
  store : Registry.Faulty Store

/-- What a task does next. -/
inductive Duty where
  | step
  | launch
  | finish (report : ExecutionReport)
  | resume
  deriving Inhabited

namespace Office

variable {Store : Type}

/-- An office in which nothing has happened. -/
def start (config : JobConfig) (catalog : Catalog Script) (floor : Floor) (store : Store) :
    Office Store :=
  ⟨catalog, [.start config], [], floor, .working store⟩

def current (o : Office Store) : Nat := o.managers.length - 1

def manager (o : Office Store) : Manager Script :=
  (o.managers.getLast?).getD (.start .default)

def setManager (o : Office Store) (m : Manager Script) : Office Store :=
  { o with managers := o.managers.set o.current m }

def time (o : Office Store) : Instant := o.floor.time

def updateAssignment (o : Office Store) (i : Nat) (change : Assignment → Assignment) :
    Office Store :=
  { o with assignments := o.assignments.modify i change }

/-- Whether the task of a job is not over, and whether the job has been told to stop. -/
def signal? (o : Office Store) (a : Assignment) : Option Bool :=
  o.managers[a.manager]?.bind (fun m => m.jobs.get? a.reference)

/-- Whether the execution of a job has been told to stop. -/
def isStopping (o : Office Store) (a : Assignment) : Bool :=
  a.run.any (fun run => o.floor.runs[run]?.any (·.signalled))

/-- Tell a job to stop, and its execution along with it. The job has no deadline any more. -/
def stop (o : Office Store) (i : Nat) (a : Assignment) : Office Store :=
  { o with
    managers := o.managers.modify a.manager (fun m => m.signal a.reference)
    floor := (a.run.elim o.floor o.floor.signal).dropAlarm (.deadline i) }

/-- Tell a job to stop if either its manager or its execution has been told so. -/
def relayOne (o : Office Store) (i : Nat) : Office Store :=
  (o.assignments[i]?).elim o (fun a =>
    if o.signal? a == some true || o.isStopping a then o.stop i a else o)

/-- Tell every job to stop of which either the manager or the execution has been told so. -/
def relay (o : Office Store) : Office Store :=
  (List.range o.assignments.length).foldl relayOne o

/-- Tell every job to stop of which the manager has been told so, the last one first. -/
def relayBack (o : Office Store) : Office Store :=
  (List.range o.assignments.length).reverse.foldl relayOne o

/-- Let the registry know how many writes are to fail, if a stage has said so. -/
def relaySpoiled (o : Office Store) : Office Store :=
  { o with
    store := { o.store with failures := o.floor.spoiled.getD o.store.failures }
    floor := { o.floor with spoiled := none } }

/-- What is to be done for a job now, if anything. -/
def duty? (o : Office Store) (a : Assignment) : Option Duty :=
  match a.task.stance with
  | .ended _ => none
  | .executing =>
    match a.run with
    | none => some .launch
    | some run => (o.floor.runs[run]?.bind (·.report)).map .finish
  | .pausing _ _ => if a.resumeAt.all (fun time => time ≤ o.floor.now) then some .resume else none
  | _ => some .step

/-- The name of the next execution. -/
def nextExecutionId (o : Office Store) : String := "exec" ++ toString (o.floor.runs.length + 1)

/-- Put the pipeline of a job on the floor. -/
def launch (o : Office Store) (i : Nat) (a : Assignment) : Office Store :=
  let signalled := o.signal? a == some true
  let (run, floor) := o.floor.launch i o.nextExecutionId a.template.pipeline a.seed signalled
  { o with floor := floor }.updateAssignment i (fun a => { a with run := some run })

/-- When a task goes on that pauses. -/
def resumeTime? (now : Nat) (t : Task) : Option Nat :=
  match t.stance with
  | .pausing _ attempt => some (now + Task.pauseMs attempt)
  | _ => none

/-- A task takes its next step. If that was the last one, its manager forgets the job, and the job
has no deadline any more. -/
def stepTask [Registry Store] (o : Office Store) (i : Nat) (a : Assignment) : Office Store :=
  let (task, store) := a.task.step (o.signal? a == some true) o.time o.store
  let resumeAt := resumeTime? o.floor.now task
  let floor := resumeAt.elim o.floor (fun time => o.floor.waitUntil time (.client i))
  let o := { o with store := store, floor := floor }.updateAssignment i (fun a =>
    { a with task := task, resumeAt := resumeAt })
  if task.isEnded then
    { o with
      managers := o.managers.modify a.manager (fun m => m.finish a.reference)
      floor := o.floor.dropAlarm (.deadline i) }
  else o

/-- Do something for a job. -/
def work [Registry Store] (o : Office Store) (i : Nat) (a : Assignment) (duty : Duty) :
    Office Store :=
  match duty with
  | .step => o.stepTask i a
  | .launch => o.launch i a
  | .finish report =>
    o.updateAssignment i (fun a =>
      { a with task := a.task.executed (.ofReport a.template.artifactSlot report) })
  | .resume => o.updateAssignment i (fun a => { a with task := a.task.resume })

/-- A task takes its steps until it has to wait, at most a number of them. -/
def workOn [Registry Store] (fuel : Nat) (o : Office Store) (i : Nat) : Office Store :=
  match fuel, o.assignments[i]? with
  | fuel + 1, some a =>
    match o.duty? a with
    | some duty => workOn fuel (o.work i a duty) i
    | none => o
  | _, _ => o

/-- The deadline of a job begins to run, or the time of the job is up. A job that has been told to
stop has no deadline. -/
def expire (o : Office Store) (i : Nat) (a : Assignment) : Office Store :=
  if o.signal? a == some false then
    match a.timeout with
    | some (ms + 1) =>
      { o with floor := o.floor.waitUntil (o.floor.now + (ms + 1)) (.deadline i) }.updateAssignment
        i (fun a => { a with timeout := none })
    | _ => o.stop i a
  else o

/-- How many steps a task takes at most before it has to wait. -/
def taskBudget : Nat := 64

/-- Let somebody go on. -/
def take [Registry Store] (o : Office Store) (p : Party) : Office Store :=
  match p with
  | .stage run stage => { o with floor := o.floor.act run stage }.relaySpoiled.relay
  | .client i => workOn taskBudget { o with floor := o.floor.serve i } i
  | .deadline i => (o.assignments[i]?).elim o (o.expire i)

instance [Registry Store] : Clockwork (Office Store) where
  now o := o.floor.now
  step? o :=
    match o.floor.queue with
    | [] => none
    | p :: rest => some ({ o with floor := { o.floor with queue := rest } }.take p)
  wake? o := o.floor.wake?
  advance time o := { o with floor := o.floor.advance time }
  budget o :=
    o.assignments.foldl (fun n a => n + Floor.pipelineBudget a.template.pipeline + taskBudget) 1

end Office

end Printworks.Rehearsal
