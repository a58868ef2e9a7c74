import Printworks.Rehearsal.Office

/-!
# The desk

What a customer can ask of an office. Jobs are named `ref1`, `ref2` and so on, in the order in which
they are taken. A job does nothing until a customer waits: for a job, for some time or for the
office to close.
-/

namespace Printworks.Rehearsal.Office

variable {Store : Type} [Registry Store]

omit [Registry Store] in
def register (o : Office Store) (d : TemplateDefinition) :
    Except TemplateError Unit × Office Store :=
  let (result, m, suffixes) := o.manager.register d o.catalog o.floor.suffixes
  (result, { o.setManager m with floor := { o.floor with suffixes := suffixes } })

omit [Registry Store] in
/-- The reference of the next job. -/
def nextReference (o : Office Store) : String := "ref" ++ toString (o.assignments.length + 1)

omit [Registry Store] in
/-- The assignment of a job that has been taken. -/
def assign (o : Office Store) (s : Submission Script) : Assignment :=
  ⟨o.current, .start s.record, s.template, s.seed, s.timeoutMs, none, none⟩

omit [Registry Store] in
/-- Put a job that has been taken at the end of the queue, after its deadline if it has one. -/
def enlist (o : Office Store) (s : Submission Script) : Office Store :=
  let i := o.assignments.length
  let floor := s.timeoutMs.elim o.floor (fun _ => o.floor.wake (.deadline i))
  { o with assignments := o.assignments ++ [o.assign s], floor := floor.wake (.client i) }

/-- Take a job for a request. Gives its reference. -/
def submit (o : Office Store) (appId : String) (request : Dict Json) (access : Access) :
    Except SubmitError String × Office Store :=
  match o.manager.submit appId request access o.nextReference o.time o.store with
  | (.error e, m, store) => (.error e, { o.setManager m with store := store })
  | (.ok s, m, store) =>
    (.ok s.record.reference, { o.setManager m with store := store }.enlist s)

/-- Ask something of the registry. -/
def consult {α : Type} (o : Office Store)
    (query : Registry.Faulty Store → α × Registry.Faulty Store) : α × Office Store :=
  let (result, store) := query o.store
  (result, { o with store := store })

def poll (o : Office Store) (reference : String) (capability : Capability) :
    Except JobError JobStatus × Office Store :=
  o.consult (JobRecord.poll reference capability o.time)

def artifact (o : Office Store) (reference : String) (capability : Capability) :
    Except JobError Artifact × Office Store :=
  o.consult (JobRecord.artifact reference capability)

/-- Go on with a cancellation, at most a number of steps. -/
def cancelWithin (fuel : Nat) (reference : String) (capability : Capability) (c : Cancellation)
    (o : Office Store) : Option (Except JobError Unit) × Office Store :=
  match fuel, c with
  | _, .ended result => (some result, o)
  | 0, _ => (none, o)
  | fuel + 1, c =>
    let (c, m, store) := c.step reference capability o.time o.manager o.store
    cancelWithin fuel reference capability c { o.setManager m with store := store }.relay

/-- How many steps a cancellation takes at most that nobody disturbs. -/
def cancellationSteps : Nat := 8

def cancel (o : Office Store) (reference : String) (capability : Capability) :
    Option (Except JobError Unit) × Office Store :=
  cancelWithin cancellationSteps reference capability .checking o

omit [Registry Store] in
/-- Whether the task of a job that the newest manager took is not over. -/
def isPending (reference : String) (o : Office Store) : Bool :=
  o.manager.jobs.contains reference

/-- Wait for the task of a job and ask for the status of the job. -/
def wait (o : Office Store) (reference : String) : Except JobError JobStatus × Office Store :=
  let o := if o.isPending reference then
      Clockwork.passUntil (fun o => !isPending reference o) o
    else o
  o.consult (JobRecord.status reference o.time)

/-- Let time pass. Who wakes up is faster than all else that is due at that instant, and who does
not sleep at all lets nothing happen. -/
def sleep (o : Office Store) (ms : Nat) : Office Store :=
  Clockwork.passUpTo (o.floor.now + ms) o

/-- Close the newest manager and wait for the tasks of its jobs, of which the newest hears first. -/
def shutDown (o : Office Store) : Office Store :=
  let o := (o.setManager o.manager.shutDown).relayBack
  if o.manager.jobs.isEmpty then o
  else Clockwork.passUntil (fun o => o.manager.jobs.isEmpty) o

omit [Registry Store] in
/-- Open a new manager, which knows no templates and no jobs. -/
def restart (o : Office Store) : Office Store :=
  -- The managers before it stay, because their tasks go on.
  { o with managers := o.managers ++ [.start o.manager.config] }

omit [Registry Store] in
def spoilWrites (o : Office Store) (count : Nat) : Office Store :=
  { o with store := { o.store with failures := count } }

omit [Registry Store] in
/-- Put the registry out of order, or in order again. -/
def setDown (o : Office Store) (down : Bool) : Office Store :=
  { o with store := { o.store with down := down } }

omit [Registry Store] in
/-- What has happened in each execution, in the order in which they started. -/
def events (o : Office Store) : List (List Event) := o.floor.runs.map (·.execution.events)

end Printworks.Rehearsal.Office
