import Printworks.Job.Record
import Printworks.Registry.Basic

/-!
# Recording final states

A final state is written once. Whoever has one reads the record; if it is final already, the new
state is dropped. Otherwise the record is replaced, provided that nobody has changed it in the
meantime; if someone has, all begins again. Each step uses the registry once.
-/

namespace Printworks

inductive Completion where
  | reading
  | writing (found : Record) (job : JobRecord)
  /-- Whether this state has been written, or why nothing could be done. -/
  | ended (result : Except JobError Bool)
  deriving Inhabited

namespace JobRecord

variable {Store : Type} [Registry Store]

def fetch (reference : String) (store : Store) : Except JobError (Record × JobRecord) × Store :=
  match Registry.get (key reference) store with
  | (.error e, store) => (.error (.store e), store)
  | (.ok none, store) => (.error (.noSuchReference reference), store)
  | (.ok (some found), store) =>
    match ofRecord reference found with
    | .error e => (.error e, store)
    | .ok job => (.ok (found, job), store)

def load (reference : String) (store : Store) : Except JobError JobRecord × Store :=
  match fetch reference store with
  | (.error e, store) => (.error e, store)
  | (.ok (_, job), store) => (.ok job, store)

end JobRecord

namespace Completion

variable {Store : Type} [Registry Store]

def isEnded (c : Completion) : Bool := c matches ended _

def read (reference : String) (store : Store) : Completion × Store :=
  match JobRecord.fetch reference store with
  | (.error e, store) => (.ended (.error e), store)
  | (.ok (found, job), store) =>
    if job.isTerminal then (.ended (.ok false), store) else (.writing found job, store)

def write (reference : String) (state : JobState) (now : Instant) (found : Record)
    (job : JobRecord) (store : Store) : Completion × Store :=
  let done := (job.completed state now).toRecord
  match Registry.compareAndPut (JobRecord.key reference) found done store with
  | (.error e, store) => (.ended (.error (.store e)), store)
  | (.ok true, store) => (.ended (.ok true), store)
  | (.ok false, store) => (.reading, store)

/-- The next step of recording a final state. -/
def step (reference : String) (state : JobState) (now : Instant) (c : Completion) (store : Store) :
    Completion × Store :=
  match c with
  | reading => read reference store
  | writing found job => write reference state now found job store
  | ended result => (ended result, store)

end Completion

end Printworks
