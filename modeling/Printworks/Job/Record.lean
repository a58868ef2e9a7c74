import Printworks.Access
import Printworks.Job.Error
import Printworks.Job.State
import Printworks.Json.Printer
import Printworks.Json.Reader
import Printworks.Time.Instant

/-!
# Records of jobs

What is kept of a job, and its form in the registry. There every field is a plain value: times are
milliseconds, and the access assertion is the text of its document. The state is not written as
such. A record without a completion date is pending; one with a completion date has succeeded,
failed or, if its error is a reserved word, been cancelled.
-/

namespace Printworks

structure JobRecord where
  reference : String
  appId : String
  fileName : String
  submittedAt : Instant
  completedAt : Option Instant
  requestCount : Nat
  access : Access
  state : JobState
  deriving DecidableEq, Inhabited

namespace JobRecord

/-- The error that is reserved for jobs that have been cancelled. -/
def cancelledError : String := "cancelled"

/-- The error of a record that has failed and does not say why. -/
def unknownError : String := "unknown error"

/-- The key of a job in the registry. -/
def key (reference : String) : String := "resultMetadata_" ++ reference

def pending (reference appId fileName : String) (access : Access) (requestCount : Nat)
    (submittedAt : Instant) : JobRecord :=
  ⟨reference, appId, fileName, submittedAt, none, requestCount, access, .pending false⟩

def isTerminal (r : JobRecord) : Bool := r.state.isTerminal

/-- The time since the submission, which stands still at the completion, in nanoseconds. -/
def elapsed (r : JobRecord) (now : Instant) : Int :=
  r.submittedAt.nanosUntil (r.completedAt.getD now)

def started (r : JobRecord) : JobRecord := { r with state := .pending true }

/-- The record of the job in a final state. -/
def completed (r : JobRecord) (state : JobState) (time : Instant) : JobRecord :=
  { r with state := state, completedAt := some time }

/-- The fields that a state adds to a record. -/
def stateFields (s : JobState) : List (String × Json) :=
  match s with
  | .pending running => [("running", .bool running)]
  | .success artifact =>
    [("success", .bool true), ("artifact", .text artifact.location)] ++
      (artifact.contentType.map (fun t => ("contentType", Json.text t))).toList
  | .failure error => [("success", .bool false), ("error", .text error)]
  | .cancelled => [("success", .bool false), ("error", .text cancelledError)]

/-- The fields that are written once and never change. -/
def terms (r : JobRecord) : List (String × Json) :=
  [("appId", .text r.appId), ("fileName", .text r.fileName),
    ("startDate", .int r.submittedAt.millis), ("requestCount", .int r.requestCount),
    ("access", .text r.access.encode.compact)]

/-- The fields of the record in the registry. -/
def fields (r : JobRecord) : List (String × Json) :=
  r.terms ++ (r.completedAt.map (fun t => ("completionDate", Json.int t.millis))).toList ++
    stateFields r.state

/-- The form of the record in the registry. -/
def toRecord (r : JobRecord) : Record := Dict.ofList r.fields

def present? (record : Record) (name : String) : Option Json :=
  match record.get? name with
  | some .null => none
  | found => found

/-- A field that may be absent, read as what it should be. The text of the error says what that
is. -/
def optional {α : Type} (record : Record) (name : String) (read : Json → Option α)
    (what : String) : Except String (Option α) :=
  match present? record name with
  | none => .ok none
  | some j =>
    match read j with
    | some a => .ok (some a)
    | none => .error s!"field '{name}' is not {what}"

/-- A field that has to be there. -/
def required {α : Type} (record : Record) (name : String) (read : Json → Option α)
    (what : String) : Except String α :=
  match optional record name read what with
  | .error e => .error e
  | .ok none => .error s!"field '{name}' is missing"
  | .ok (some a) => .ok a

def requiredText (record : Record) (name : String) : Except String String :=
  required record name Json.text? "a string"

/-- The instant of a number of milliseconds. -/
def readMillis? (j : Json) : Option Instant := j.int?.bind (fun ms => Instant.ofMillis? ms.toInt)

/-- The assertion that a record holds as a text. -/
def readAccess (record : Record) : Except String Access := do
  let text ← requiredText record "access"
  match (Json.read? text).bind Access.decode? with
  | some access => return access
  | none => .error "field 'access': not an assertion"

/-- The state of a record, which depends on whether it is completed. -/
def readState (record : Record) (completed : Bool) : Except String JobState := do
  if completed then
    let success ← optional record "success" Json.bool? "a bool"
    if success.getD false then
      let location ← requiredText record "artifact"
      let contentType ← optional record "contentType" Json.text? "a string"
      return .success ⟨location, contentType⟩
    else
      let error ← optional record "error" Json.text? "a string"
      let error := error.getD unknownError
      -- A failure with the reserved error cannot be told from a cancellation.
      return if error = cancelledError then .cancelled else .failure error
  else
    let running ← optional record "running" Json.bool? "a bool"
    return .pending (running.getD false)

/-- The fields of a record, or what is wrong with the first one that cannot be understood. -/
def readFields (reference : String) (record : Record) : Except String JobRecord := do
  let access ← readAccess record
  let completedAt ← optional record "completionDate" readMillis? "a timestamp"
  let state ← readState record completedAt.isSome
  let appId ← requiredText record "appId"
  let fileName ← requiredText record "fileName"
  let submittedAt ← required record "startDate" readMillis? "a timestamp"
  let requestCount ← optional record "requestCount" Json.nat? "a count"
  return ⟨reference, appId, fileName, submittedAt, completedAt, requestCount.getD 0, access, state⟩

/-- The job that a record of the registry describes. -/
def ofRecord (reference : String) (record : Record) : Except JobError JobRecord :=
  match readFields reference record with
  | .ok job => .ok job
  | .error message => .error (.corruptRecord reference message)

end JobRecord

end Printworks
