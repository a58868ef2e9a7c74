import Printworks.Proofs.Job.Recording

/-!
# Managers that share a registry

A bureau is any number of managers with one registry in memory, the jobs whose records they have
written, and the calls to submit and to cancel jobs. An act is one step of somebody: a request to a
manager, a step of a task, a step of a call. Each act uses the registry once at most, and may be told
that this use fails. Whoever acts next is left open, and so is everything that comes from outside: the
time, what an execution reports and whether a task finds itself told to stop, be it by a manager, a
deadline or nobody.

A call to submit a job finds out whether its manager takes jobs, makes the job, writes its record, and
enters the job in the table of the manager, all in steps between which others may act.
-/

namespace Printworks

open Registry

universe u

/-- A job whose record has been written. -/
structure Engagement (Implementation : Type u) where
  /-- The number of the manager that took the job. -/
  manager : Nat
  submission : Submission Implementation
  task : Task

/-- How far a call to submit a job has come. -/
inductive Admission (Implementation : Type u) where
  /-- The manager has yet to say whether it takes jobs. -/
  | checking
  | drafting
  /-- The record of the job has yet to be written. -/
  | filing (s : Submission Implementation)
  /-- The record has been written. The call goes on along with the job. -/
  | filed
  | refused (cause : SubmitError)

/-- A call to submit a job. -/
structure SubmitCall (Implementation : Type u) where
  /-- The number of the manager that has been called. -/
  manager : Nat
  appId : String
  request : Dict Json
  access : Access
  progress : Admission Implementation

/-- A call to cancel a job. -/
structure CancelCall where
  /-- The number of the manager that has been called. -/
  manager : Nat
  reference : String
  capability : Capability
  progress : Cancellation

/-- Managers with a registry, the jobs that they have taken and the calls to submit and to cancel
jobs. -/
structure Bureau (Implementation : Type u) where
  managers : List (Manager Implementation)
  jobs : List (Engagement Implementation)
  requests : List (SubmitCall Implementation)
  calls : List CancelCall
  registry : Memory

/-- One step of somebody. Managers, jobs and calls are given by their numbers. -/
inductive Act (Implementation : Type u) where
  /-- A new manager joins. -/
  | join (config : JobConfig)
  | register (manager : Nat) (definition : TemplateDefinition) (catalog : Catalog Implementation)
      (suffixes : Suffixes)
  /-- A manager is called to take a job. -/
  | submit (manager : Nat) (appId : String) (request : Dict Json) (access : Access)
  /-- The call takes its next step. If that makes the job, it is given a reference and the time. -/
  | attend (request : Nat) (reference : String) (now : Instant) (failure : Option StoreError)
  /-- The call that has filed a job enters it in the table of its manager, has its task started and
  returns. -/
  | enter (job : Nat)
  | shutDown (manager : Nat)
  | work (job : Nat) (signalled : Bool) (now : Instant) (failure : Option StoreError)
  /-- The execution of a job has ended. -/
  | report (job : Nat) (report : ExecutionReport)
  | resume (job : Nat)
  /-- A manager is called to cancel a job, which may be one of another manager. -/
  | cancel (manager : Nat) (reference : String) (capability : Capability)
  | proceed (call : Nat) (now : Instant) (failure : Option StoreError)

/-- The time at which somebody acts who may write a time to the registry. -/
def Act.now? {Implementation : Type u} (a : Act Implementation) : Option Instant :=
  match a with
  | .attend _ _ now _ => some now
  | .work _ _ now _ => some now
  | .proceed _ now _ => some now
  | _ => none

namespace Bureau

variable {Implementation : Type u}

def empty : Bureau Implementation := ⟨[], [], [], [], .empty⟩

/-- The registry, told whether its next use fails. -/
def unreliable (b : Bureau Implementation) (failure : Option StoreError) : Unreliable Memory :=
  ⟨b.registry, failure⟩

/-- A call to submit a job takes its next step. -/
def attend (b : Bureau Implementation) (k : Nat) (call : SubmitCall Implementation)
    (m : Manager Implementation) (reference : String) (now : Instant)
    (failure : Option StoreError) : Bureau Implementation :=
  let requests (progress : Admission Implementation) :=
    b.requests.set k { call with progress := progress }
  match call.progress with
  | .checking =>
    { b with requests := requests (if m.shuttingDown then .refused .shuttingDown else .drafting) }
  | .drafting =>
    match m.draft call.appId call.request call.access reference now with
    | .error e => { b with requests := requests (.refused e) }
    | .ok s => { b with requests := requests (.filing s) }
  | .filing s =>
    match Manager.file s (b.unreliable failure) with
    | (.error e, u) => { b with requests := requests (.refused e), registry := u.store }
    | (.ok (), u) =>
      { b with
        requests := requests .filed
        registry := u.store
        jobs := b.jobs ++ [⟨call.manager, s, .file s.record⟩] }
  | _ => b

/-- A job is entered in the table of its manager and its task is started, which happens once. -/
def enter (b : Bureau Implementation) (j : Nat) (e : Engagement Implementation) :
    Bureau Implementation :=
  if e.task.isFiled then
    { b with
      managers := b.managers.modify e.manager (fun m => m.enter e.task.reference)
      jobs := b.jobs.set j { e with task := e.task.enter } }
  else b

/-- The task of a job takes its next step. If that was the last one, its manager forgets the job. -/
def work (b : Bureau Implementation) (j : Nat) (e : Engagement Implementation) (signalled : Bool)
    (now : Instant) (failure : Option StoreError) : Bureau Implementation :=
  let (task, u) := e.task.step signalled now (b.unreliable failure)
  let managers :=
    if task.isEnded then b.managers.modify e.manager (fun m => m.finish e.task.reference)
    else b.managers
  { b with managers := managers, jobs := b.jobs.set j { e with task := task }, registry := u.store }

/-- A call to cancel a job takes its next step. -/
def proceed (b : Bureau Implementation) (k : Nat) (call : CancelCall) (m : Manager Implementation)
    (now : Instant) (failure : Option StoreError) : Bureau Implementation :=
  let (progress, m, u) :=
    call.progress.step call.reference call.capability now m (b.unreliable failure)
  { b with
    managers := b.managers.set call.manager m
    calls := b.calls.set k { call with progress := progress }
    registry := u.store }

def updateTask (b : Bureau Implementation) (j : Nat) (change : Engagement Implementation → Task) :
    Bureau Implementation :=
  { b with jobs := b.jobs.modify j (fun e => { e with task := change e }) }

/-- The bureau after an act. What is asked of nobody changes nothing. -/
def act (b : Bureau Implementation) (a : Act Implementation) : Bureau Implementation :=
  match a with
  | .join config => { b with managers := b.managers ++ [.start config] }
  | .register i definition catalog suffixes =>
    { b with managers := b.managers.modify i (fun m => (m.register definition catalog suffixes).2.1) }
  | .submit i appId request access =>
    { b with requests := b.requests ++ [⟨i, appId, request, access, .checking⟩] }
  | .attend k reference now failure =>
    (b.requests[k]?).elim b (fun call =>
      (b.managers[call.manager]?).elim b (b.attend k call · reference now failure))
  | .enter j => (b.jobs[j]?).elim b (b.enter j)
  | .shutDown i => { b with managers := b.managers.modify i Manager.shutDown }
  | .work j signalled now failure => (b.jobs[j]?).elim b (b.work j · signalled now failure)
  | .report j report =>
    b.updateTask j (fun e =>
      e.task.executed (.ofReport e.submission.template.artifactSlot report))
  | .resume j => b.updateTask j (fun e => e.task.resume)
  | .cancel i reference capability =>
    { b with calls := b.calls ++ [⟨i, reference, capability, .checking⟩] }
  | .proceed k now failure =>
    (b.calls[k]?).elim b (fun call =>
      (b.managers[call.manager]?).elim b (b.proceed k call · now failure))

def run (acts : List (Act Implementation)) : Bureau Implementation := acts.foldl act empty

/-- The record that is stored for a reference. -/
def stored (b : Bureau Implementation) (reference : String) : Option Record :=
  b.registry.records.get? (JobRecord.key reference)

/-- The job whose record is written in an act. -/
def filed? (b : Bureau Implementation) (a : Act Implementation) :
    Option (Submission Implementation) :=
  match a with
  | .attend k _ _ failure =>
    (b.requests[k]?).bind (fun call =>
      (b.managers[call.manager]?).bind (fun _ =>
        match call.progress with
        | .filing s => (Manager.file s (b.unreliable failure)).1.toOption.map (fun _ => s)
        | _ => none))
  | _ => none

/-- The reference and the answer of the recording of a final state that ends in an act. -/
def answer? (b : Bureau Implementation) (a : Act Implementation) :
    Option (String × Except JobError Bool) :=
  match a with
  | .work j _ now failure =>
    (b.jobs[j]?).bind (fun e =>
      (e.task.answer? now (b.unreliable failure)).map (e.task.reference, ·))
  | .proceed k now failure =>
    (b.calls[k]?).bind (fun call =>
      (b.managers[call.manager]?).bind (fun _ =>
        (call.progress.answer? call.reference now (b.unreliable failure)).map (call.reference, ·)))
  | _ => none

/-- The answers of all recordings of final states that end in some acts. -/
def answers (b : Bureau Implementation) (acts : List (Act Implementation)) :
    List (String × Except JobError Bool) :=
  match acts with
  | [] => []
  | a :: rest => (b.answer? a).toList ++ answers (b.act a) rest

/-- Whether an answer says that the final state of a reference has been written. -/
def wroteState (reference : String) (answer : String × Except JobError Bool) : Bool :=
  match answer with
  | (r, .ok true) => r == reference
  | _ => false

/-! ### A call that is not interrupted -/

variable {b : Bureau Implementation} {m : Manager Implementation} {i : Nat}

/-- A call to submit a job, between whose steps nobody else acts, does what its manager does that takes
a job at once. -/
theorem submit_in_turn (manager : b.managers[i]? = some m) (appId : String) (request : Dict Json)
    (access : Access) (reference : String) (now : Instant) (failure : Option StoreError) :
    let next := Act.attend b.requests.length reference now failure
    let after := [.submit i appId request access, next, next, next, .enter b.jobs.length].foldl act b
    let asked (progress : Admission Implementation) :=
      b.requests ++ [⟨i, appId, request, access, progress⟩]
    match m.submit appId request access reference now (b.unreliable failure) with
    | (.error e, m', u) =>
      m' = m ∧ after = { b with requests := asked (.refused e), registry := u.store }
    | (.ok s, m', u) => after = { b with
        managers := b.managers.set i m'
        jobs := b.jobs ++ [⟨i, s, (Task.file s.record).enter⟩]
        requests := asked .filed
        registry := u.store } := by
  intro next after asked
  have attends (progress : Admission Implementation) :
      { b with requests := asked progress }.act next = { b with requests := asked progress }.attend
        b.requests.length ⟨i, appId, request, access, progress⟩ m reference now failure := by
    simp [asked, next, act, manager]
  have set (progress progress' : Admission Implementation) :
      (asked progress).set b.requests.length ⟨i, appId, request, access, progress'⟩ =
        asked progress' := by
    simp [asked]
  -- A call that has been refused takes no more steps, and has no job to enter.
  have refused (e : SubmitError) (registry : Memory) :
      { b with requests := asked (.refused e), registry := registry }.act next =
        { b with requests := asked (.refused e), registry := registry } := by
    simp [asked, next, act, manager, attend]
  have absent (progress : Admission Implementation) (registry : Memory) :
      { b with requests := asked progress, registry := registry }.act (.enter b.jobs.length) =
        { b with requests := asked progress, registry := registry } := by
    simp [act]
  have first : after = (((({ b with requests := asked .checking }.act next).act next).act next).act
    (.enter b.jobs.length)) := rfl
  simp only [Manager.submit, Manager.prepare]
  rw [first, attends]
  cases closed : m.shuttingDown with
  | true =>
    simp only [attend, closed, set, if_true]
    exact ⟨trivial, by rw [refused, refused, absent]; rfl⟩
  | false =>
    simp only [attend, closed, set, Bool.false_eq_true, if_false]
    rw [attends]
    cases drafted : m.draft appId request access reference now with
    | error e =>
      simp only [attend, drafted, set]
      exact ⟨trivial, by rw [refused, absent]; rfl⟩
    | ok s =>
      simp only [attend, drafted, set]
      rw [attends]
      obtain ⟨result, u, filed⟩ :
          ∃ result u, Manager.file s (b.unreliable failure) = (result, u) := ⟨_, _, rfl⟩
      have filed' : Manager.file s
          ({ b with requests := asked (.filing s) }.unreliable failure) = (result, u) := filed
      simp only [attend, filed', set, Manager.accept, filed]
      cases result with
      | error e => exact ⟨rfl, absent _ _⟩
      | ok done =>
        simp [act, enter, Task.file, Task.isFiled, Task.reference, List.modify_eq_set_getElem?, manager]

end Bureau

end Printworks
