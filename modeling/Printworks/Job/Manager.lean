import Printworks.Job.Result
import Printworks.Job.Status
import Printworks.Job.Task
import Printworks.Job.Template

/-!
# Job managers

A manager takes jobs for the templates that have been registered with it. It knows the jobs whose
tasks it has started and that are not over, and whether each of them has been told to stop. All
else about jobs is in the registry, which managers may share.
-/

namespace Printworks

universe u

structure JobConfig where
  /-- The time after which jobs are cancelled whose templates do not say, in milliseconds. -/
  defaultTimeoutMs : Option Nat
  /-- Whether templates may refuse parameters that are not declared. -/
  strictParameters : Bool
  deriving DecidableEq

namespace JobConfig

def default : JobConfig := ⟨none, true⟩

instance : Inhabited JobConfig := ⟨default⟩

def encode (c : JobConfig) : Json :=
  .object [("default_timeout_ms", .orNull (c.defaultTimeoutMs.map (fun ms => .int ms))),
    ("strict_parameters", .bool c.strictParameters)]

def decode? (j : Json) : Option JobConfig := do
  let f ← j.fields? ["default_timeout_ms", "strict_parameters"]
  let defaultTimeoutMs ← f.nullable 0 Json.nat?
  let strictParameters ← f.required 1 Json.bool?
  return ⟨defaultTimeoutMs, strictParameters⟩

def describe (c : JobConfig) : String :=
  let timeout := match c.defaultTimeoutMs with
    | none => "None"
    | some ms => "Some(" ++ toString ms ++ ")"
  "JobConfig \x7b default_timeout_ms: " ++ timeout ++ ", strict_parameters: " ++
    toString c.strictParameters ++ " \x7d"

end JobConfig

inductive SubmitError where
  | shuttingDown
  /-- No template is registered under the name. -/
  | unknownApp (appId : String)
  | contract (violations : List Violation)
  | fileName (cause : FileName.Error)
  | duplicateReference (reference : String)
  | store (cause : StoreError)
  deriving DecidableEq, Inhabited

def SubmitError.message (e : SubmitError) : String :=
  match e with
  | shuttingDown => "job manager is shutting down"
  | unknownApp appId => s!"no template registered for app '{appId}'"
  | contract violations => Violation.summary violations
  | fileName cause => "failed to render output file name: " ++ cause.message
  | duplicateReference reference => s!"reference '{reference}' already exists"
  | store cause => cause.message

/-- A job that is to be taken. -/
structure Submission (Implementation : Type u) where
  record : JobRecord
  template : Template Implementation
  seed : Dict Value
  /-- The time after which the job is cancelled, in milliseconds. -/
  timeoutMs : Option Nat

/-- A manager of jobs. -/
structure Manager (Implementation : Type u) where
  config : JobConfig
  /-- The templates by the names under which jobs are submitted. -/
  templates : Dict (Template Implementation)
  graphs : GraphCache
  /-- For each job whose task is not over, whether it has been told to stop. -/
  jobs : Dict Bool
  shuttingDown : Bool

namespace Manager

variable {Implementation : Type u}

def start (config : JobConfig) : Manager Implementation := ⟨config, ∅, ∅, ∅, false⟩

/-- Register a template, in place of one of the same name. -/
def register (m : Manager Implementation) (d : TemplateDefinition)
    (catalog : Catalog Implementation) (suffixes : Suffixes) :
    Except TemplateError Unit × Manager Implementation × Suffixes :=
  match Template.resolve d catalog m.graphs suffixes with
  | (.error e, graphs, suffixes) => (.error e, { m with graphs := graphs }, suffixes)
  | (.ok template, graphs, suffixes) =>
    (.ok (), { m with graphs := graphs, templates := m.templates.insert d.appId template },
      suffixes)

def appIds (m : Manager Implementation) : List String := m.templates.keys

def describe (m : Manager Implementation) : String :=
  "JobManager \x7b app_ids: " ++ Text.quotedList m.appIds ++ ", config: " ++ m.config.describe ++
    " \x7d"

/-- What becomes of extra parameters: the template decides if the settings let it. -/
def extraParameters (m : Manager Implementation) (t : Template Implementation) : ExtraParameters :=
  if m.config.strictParameters then t.extraParameters else .warn

/-- The job that a request makes. -/
def draft (m : Manager Implementation) (appId : String) (request : Dict Json) (access : Access)
    (reference : String) (now : Instant) : Except SubmitError (Submission Implementation) :=
  match m.templates.get? appId with
  | none => .error (.unknownApp appId)
  | some template =>
    match (template.attributes.bind request (m.extraParameters template)).toExcept with
    | .error violations => .error (.contract violations)
    | .ok seed =>
      match FileName.render template.fileName appId reference now with
      | .error cause => .error (.fileName cause)
      | .ok fileName =>
        -- Nothing has been written up to here, so every refusal leaves the registry as it was.
        let record := JobRecord.pending reference appId fileName (template.access.and access)
          request.size now
        .ok ⟨record, template, seed, template.timeoutMs <|> m.config.defaultTimeoutMs⟩

/-- The job that a request makes, provided that the manager takes jobs. -/
def prepare (m : Manager Implementation) (appId : String) (request : Dict Json) (access : Access)
    (reference : String) (now : Instant) : Except SubmitError (Submission Implementation) :=
  if m.shuttingDown then .error .shuttingDown
  else m.draft appId request access reference now

/-- Write the record of a job that is to be taken. -/
def file {Store : Type} [Registry Store] (s : Submission Implementation) (store : Store) :
    Except SubmitError Unit × Store :=
  let reference := s.record.reference
  match Registry.putIfAbsent (JobRecord.key reference) s.record.toRecord store with
  | (.error e, store) => (.error (.store e), store)
  | (.ok false, store) => (.error (.duplicateReference reference), store)
  | (.ok true, store) => (.ok (), store)

/-- Enter a job in the table. If the manager has been shut down in the meantime, the job has been told
to stop before it begins. -/
def enter (m : Manager Implementation) (reference : String) : Manager Implementation :=
  { m with jobs := m.jobs.insert reference m.shuttingDown }

/-- Write the record of a job that is to be taken, and take it. -/
def accept {Store : Type} [Registry Store] (m : Manager Implementation)
    (s : Submission Implementation) (store : Store) :
    Except SubmitError Unit × Manager Implementation × Store :=
  match file s store with
  | (.error e, store) => (.error e, m, store)
  | (.ok (), store) => (.ok (), m.enter s.record.reference, store)

/-- Take a job for a request, or say why not and change nothing. -/
def submit {Store : Type} [Registry Store] (m : Manager Implementation) (appId : String)
    (request : Dict Json) (access : Access) (reference : String) (now : Instant) (store : Store) :
    Except SubmitError (Submission Implementation) × Manager Implementation × Store :=
  match m.prepare appId request access reference now with
  | .error e => (.error e, m, store)
  | .ok s =>
    match m.accept s store with
    | (.error e, m, store) => (.error e, m, store)
    | (.ok (), m, store) => (.ok s, m, store)

/-- Whether a job has been told to stop. -/
def isSignalled (m : Manager Implementation) (reference : String) : Bool :=
  (m.jobs.get? reference).getD false

/-- Tell a job to stop, if its task is not over. -/
def signal (m : Manager Implementation) (reference : String) : Manager Implementation :=
  if m.jobs.contains reference then { m with jobs := m.jobs.insert reference true } else m

def finish (m : Manager Implementation) (reference : String) : Manager Implementation :=
  { m with jobs := m.jobs.erase reference }

/-- Take no more jobs, and tell all jobs to stop. -/
def shutDown (m : Manager Implementation) : Manager Implementation :=
  { m with shuttingDown := true, jobs := m.jobs.map (fun _ => true) }

end Manager

end Printworks
