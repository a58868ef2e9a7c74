import Printworks.Execution.Event
import Printworks.Execution.Report
import Printworks.Graph.Basic
import Printworks.Stage.Workspace

/-!
# Executions

An execution runs the stages of a graph. A stage may start once every stage that it waits for is
done; ready stages start in the order in which they became ready. When a stage fails, those that
wait for it, directly or through others, are skipped, and unrelated branches go on. Once the
execution is cancelled no stage starts, and running ones are left to finish.

Each change is a function of its own here, and nothing says when it happens: whoever runs an
execution chooses when to `dispatch` the next stage, when a stage reads each of its inputs and sets to
work on them (`enter`), when it ends (`deliver`), and when the end is taken note of (`settle`).
-/

namespace Printworks

/-- How far a running stage has come. -/
inductive Phase where
  /-- It has been started, and has read the first of its inputs up to some number. -/
  | dispatched (read : Dict Value) (count : Nat)
  | working (inputs : Dict Value)
  /-- It has ended, and either failed or stored values under the given names. -/
  | ended (result : Except StageError (List String))
  deriving Inhabited

structure Flight where
  stage : Nat
  phase : Phase
  deriving Inhabited

/-- The state of an execution. -/
structure Execution where
  id : String
  graph : Graph
  context : Context
  reports : List StageReport
  /-- For each stage, how many of those that it waits for are not done. -/
  remaining : List Nat
  /-- The stages that may start, in the order in which they became ready. -/
  ready : List Nat
  /-- The running stages, in the order in which they started. -/
  inFlight : List Flight
  /-- Whether the execution has noticed that it is cancelled. -/
  cancelled : Bool
  events : List Event
  deriving Inhabited

namespace Execution

/-- Tell of a change. -/
def emit (e : Execution) (event : Event) : Execution := { e with events := e.events ++ [event] }

def state? (e : Execution) (i : Nat) : Option StageState := e.reports[i]?.map (·.state)

def stageName (e : Execution) (i : Nat) : String := (e.reports[i]?.map (·.stage)).getD ""

def updateReport (e : Execution) (i : Nat) (change : StageReport → StageReport) : Execution :=
  { e with reports := e.reports.modify i change }

def markReady (e : Execution) (i : Nat) : Execution :=
  let e := e.updateReport i (fun r => { r with state := .ready })
  { e with ready := e.ready ++ [i] }

/-- An execution all of whose stages wait. -/
def waiting (id : String) (graph : Graph) (seed : Dict Value) (suffixes : Suffixes) : Execution :=
  { id := id
    graph := graph
    context := ⟨seed, suffixes⟩
    reports := graph.stages.map (fun s => .waiting s.name)
    remaining := graph.predecessorLists.map List.length
    ready := []
    inFlight := []
    cancelled := false
    events := [] }

/-- The execution of a graph before any stage has started. The seed holds the values of the
attributes. -/
def start (id : String) (graph : Graph) (seed : Dict Value) (suffixes : Suffixes) : Execution :=
  (graph.roots.foldl markReady (waiting id graph seed suffixes)).emit
    (.executionStarted id graph.size)

/-- Whether a stage may be started. -/
def canDispatch (e : Execution) : Bool := !e.cancelled && !e.ready.isEmpty

/-- Start the stage that has been ready longest. -/
def dispatch (e : Execution) (now : Instant) : Execution :=
  match e.ready with
  | [] => e
  | i :: rest =>
    let e := { e with ready := rest, inFlight := e.inFlight ++ [Flight.mk i (.dispatched ∅ 0)] }
    let e := e.updateReport i (fun r => { r with state := .running, startedAt := some now })
    e.emit (.stageStarted e.id (e.stageName i))

def phase? (e : Execution) (i : Nat) : Option Phase :=
  (e.inFlight.find? (fun f => f.stage == i)).map (·.phase)

def setPhase (e : Execution) (i : Nat) (phase : Phase) : Execution :=
  { e with inFlight := e.inFlight.map (fun f => if f.stage = i then ⟨i, phase⟩ else f) }

/-- A stage that has been started reads its next input. If it has read them all it sets to work, or has
ended if they do not fit its contract. -/
def enter (e : Execution) (i : Nat) : Execution :=
  match e.graph.stages[i]?, e.phase? i with
  | some spec, some (.dispatched read count) =>
    match spec.inputs.slots[count]? with
    | some slot => e.setPhase i (.dispatched (spec.readInput e.context.values read slot) (count + 1))
    | none =>
      match spec.bindRead read with
      | .ok inputs => e.setPhase i (.working inputs)
      | .error error => e.setPhase i (.ended (.error error))
  | _, _ => e

/-- The workspace of a stage that has read its inputs. -/
def workspace? (e : Execution) (i : Nat) : Option Workspace :=
  match e.graph.stages[i]?, e.phase? i with
  | some spec, some (.working inputs) => some (Workspace.start e.id spec inputs)
  | _, _ => none

/-- Store what a stage delivers. Nothing is stored if it failed, if an output is missing, or if a
name is taken. -/
def stored (context : Context) (result : Except StageError Workspace) :
    Except StageError (List String) × Context :=
  match result with
  | .error error => (.error error, context)
  | .ok workspace =>
    match workspace.delivery with
    | .error error => (.error error, context)
    | .ok writes =>
      match context.commit writes with
      | .error refusal => (.error (.context refusal.error), refusal.context)
      | .ok (names, context) => (.ok names, context)

/-- A stage ends. -/
def deliver (e : Execution) (i : Nat) (result : Except StageError Workspace) : Execution :=
  let (result, context) := stored e.context result
  { e with context := context }.setPhase i (.ended result)

/-- A stage that waits has one stage less to wait for. -/
def release (e : Execution) (i : Nat) : Execution :=
  if e.state? i = some .waiting then
    let left := e.remaining.getD i 0 - 1
    let e := { e with remaining := e.remaining.set i left }
    if left = 0 then e.markReady i else e
  else e

/-- A stage will not start. -/
def skip (reason : String) (e : Execution) (i : Nat) : Execution :=
  let e := e.updateReport i (fun r => { r with state := .skipped, error := some reason })
  e.emit (.stageSkipped e.id (e.stageName i) reason)

/-- Whether a stage has not started and may still do so. -/
def isPending (e : Execution) (i : Nat) : Bool :=
  e.state? i == some .waiting || e.state? i == some .ready

/-- A stage will not start, if it has not already. -/
def skipPending (reason : String) (e : Execution) (i : Nat) : Execution :=
  if e.isPending i then skip reason { e with ready := e.ready.filter (fun j => j != i) } i else e

/-- The reason to skip the stages behind one that failed. -/
def blockedReason (stage : String) : String := s!"upstream stage '{stage}' failed"

/-- A stage has succeeded: those behind it have one stage less to wait for. -/
def complete (e : Execution) (i : Nat) (outputs : List String) : Execution :=
  let e := e.updateReport i (fun r => { r with state := .done })
  let e := e.emit (.stageCompleted e.id (e.stageName i) outputs)
  (e.graph.dependents i).foldl release e

/-- A stage has failed: those behind it are skipped. -/
def fail (e : Execution) (i : Nat) (error : StageError) : Execution :=
  let message := error.message
  let e := e.updateReport i (fun r => { r with state := .failed, error := some message })
  let e := e.emit (.stageFailed e.id (e.stageName i) message)
  (e.graph.transitiveDependents i).foldl (skipPending (blockedReason (e.stageName i))) e

/-- Take note of the end of a stage. -/
def settle (e : Execution) (i : Nat) (now : Instant) : Execution :=
  match e.phase? i with
  | some (.ended result) =>
    -- The stage gives up its place before those behind it are released or skipped.
    let e := { e with inFlight := e.inFlight.filter (fun f => f.stage != i) }
    let e := e.updateReport i (fun r => { r with finishedAt := some now })
    match result with
    | .ok outputs => e.complete i outputs
    | .error error => e.fail i error
  | _ => e

/-- Notice whether the execution has been asked to stop. -/
def observe (e : Execution) (signalled : Bool) : Execution :=
  { e with cancelled := e.cancelled || signalled }

def supply (e : Execution) (suffixes : Suffixes) : Execution :=
  { e with context := { e.context with suffixes := suffixes } }

/-- Whether nothing runs and nothing will be started. -/
def isOver (e : Execution) : Bool := e.inFlight.isEmpty && !e.canDispatch

/-- The reason to skip a stage that has not started when the execution is over. -/
def unreachedReason (cancelled : Bool) : String :=
  if cancelled then "execution cancelled" else "not reached"

/-- Settle what has happened to a stage when the execution is over. -/
def closeStage (cancelled : Bool) (e : Execution) (i : Nat) : Execution :=
  if e.isPending i then skip (unreachedReason cancelled) e i
  else if e.state? i = some .running then
    e.updateReport i (fun r => { r with state := .failed, error := some "stage task was lost" })
  else e

/-- How the execution ended. -/
def outcome (e : Execution) : Outcome :=
  -- A cancelled execution says so even if all stages are done.
  if e.cancelled then .cancelled
  else if e.reports.all (fun r => r.state == .done) then .completed
  else .failed

/-- The report of an execution. -/
def report (e : Execution) : ExecutionReport := ⟨e.id, e.outcome, e.context.values, e.reports⟩

/-- The event that tells of the end. -/
def endEvent (r : ExecutionReport) : Event :=
  match r.outcome with
  | .completed => .executionCompleted r.executionId
  | .cancelled => .executionCancelled r.executionId
  | .failed => .executionFailed r.executionId (r.failureSummary.getD "")

/-- End an execution that is over. A signal that has come in the meantime still counts. -/
def conclude (e : Execution) (signalled : Bool) : Execution :=
  let e := e.observe signalled
  let e := (List.range e.reports.length).foldl (closeStage e.cancelled) e
  e.emit (endEvent e.report)

end Execution

end Printworks
