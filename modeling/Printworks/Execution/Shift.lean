import Printworks.Execution.Config
import Printworks.Execution.State

/-!
# Running an execution

A shift is an execution along with whoever runs it: the permits of its executor, those that other
executions hold, the signal to stop, and where the one that runs it stands. It looks at the signal,
starts stages as long as it finds permits, and then waits: for a stage that has ended, or in line for
a permit if nothing runs. A stage holds its permit until it ends, and its end is taken note of later.

A move is the smallest thing that can happen. Nothing says here in which order moves come, and one
that cannot happen changes nothing. What a stage does with its workspace is part of the move that ends
it.
-/

namespace Printworks

/-- What a stage does with its workspace: the outputs that it sets, in order, and the error that it
ends with, if it fails. An output that is refused is not set, and the stage goes on. -/
structure Conduct where
  settings : List (String × Value)
  error : Option StageError
  deriving Inhabited

namespace Conduct

/-- Set an output, unless that is refused. -/
def set (w : Workspace) (setting : String × Value) : Workspace :=
  match w.setOutput setting.1 setting.2 with
  | .ok w => w
  | .error _ => w

/-- What a stage ends with. -/
def play (c : Conduct) (w : Workspace) : Except StageError Workspace :=
  match c.error with
  | some error => .error error
  | none => .ok (c.settings.foldl set w)

/-- What a stage has done that ends with a certain result. -/
def ofResult (result : Except StageError Workspace) : Conduct :=
  match result with
  | .ok w => ⟨w.outputs.toList, none⟩
  | .error error => ⟨[], some error⟩

end Conduct

/-- Where the one that runs an execution stands. -/
inductive Place where
  /-- The signal is looked at next. -/
  | looking
  | starting
  /-- Nothing runs, and a permit is waited for. -/
  | queueing
  /-- The end of a stage is waited for. -/
  | waiting
  | finished
  deriving DecidableEq, Inhabited

/-- An execution with all that decides how it goes on. -/
structure Shift where
  config : ExecutorConfig
  execution : Execution
  /-- How many permits other executions hold. -/
  others : Nat
  signalled : Bool
  place : Place

inductive Move where
  /-- The signal is looked at. -/
  | look
  /-- The stage that has been ready longest is started. -/
  | start (now : Instant)
  /-- No more stages are started for now. -/
  | rest
  /-- A permit comes that has been waited for, and the stage that has been ready longest is
  started. -/
  | acquire (now : Instant)
  /-- A stage that has been started reads its next input, or sets to work if it has read them all. -/
  | enter (stage : Nat)
  /-- A stage ends. -/
  | deliver (stage : Nat) (conduct : Conduct)
  /-- The end of a stage is taken note of. -/
  | settle (stage : Nat) (now : Instant)
  | wake
  /-- The execution is told to stop. -/
  | signal
  /-- Other executions take or return permits. -/
  | occupy (others : Nat)
  /-- Others have taken suffixes from those that names are made with. -/
  | supply (suffixes : Suffixes)
  deriving Inhabited

/-- Whether a running stage has ended. -/
def Flight.hasEnded (f : Flight) : Bool := f.phase matches .ended _

namespace Shift

/-- An execution that is about to be run. -/
def start (config : ExecutorConfig) (id : String) (graph : Graph) (seed : Dict Value)
    (suffixes : Suffixes) : Shift :=
  ⟨config, Execution.start id graph seed suffixes, 0, false, .looking⟩

/-- How many permits the execution holds: one for each running stage that has not ended. -/
def held (s : Shift) : Nat := s.execution.inFlight.countP (fun f => !f.hasEnded)

/-- How many permits are left. -/
def free (s : Shift) : Nat := s.config.permits - s.others - s.held

/-- Whether a stage can be started right away. -/
def canStart (s : Shift) : Bool := s.execution.canDispatch && decide (0 < s.free)

/-- Where to wait when no stage can be started. -/
def resting (s : Shift) : Place :=
  if s.execution.isOver then .finished
  else if s.execution.inFlight.isEmpty then .queueing
  else .waiting

/-- Whether the signal would end the wait. -/
def canWake (s : Shift) : Bool :=
  s.place == .queueing || (s.place == .waiting && !s.execution.cancelled)

/-- What a move makes of a shift, if it can happen. -/
def step? (s : Shift) (m : Move) : Option Shift :=
  match m with
  | .look =>
    if s.place = .looking then
      some { s with execution := s.execution.observe s.signalled, place := .starting }
    else none
  | .start now =>
    if s.place = .starting ∧ s.canStart then
      some { s with execution := s.execution.dispatch now }
    else none
  | .rest =>
    if s.place = .starting ∧ !s.canStart then some { s with place := s.resting } else none
  | .acquire now =>
    if s.place = .queueing ∧ 0 < s.free then
      some { s with execution := s.execution.dispatch now, place := .looking }
    else none
  | .enter i =>
    match s.execution.phase? i with
    | some (.dispatched _ _) => some { s with execution := s.execution.enter i }
    | _ => none
  | .deliver i conduct =>
    (s.execution.workspace? i).map (fun w =>
      { s with execution := s.execution.deliver i (conduct.play w) })
  | .settle i now =>
    match s.place, s.execution.phase? i with
    | .waiting, some (.ended _) =>
      some { s with execution := s.execution.settle i now, place := .looking }
    | _, _ => none
  | .wake => if s.signalled ∧ s.canWake then some { s with place := .looking } else none
  | .signal => some { s with signalled := true }
  | .occupy others =>
    if others + s.held ≤ s.config.permits then some { s with others := others } else none
  | .supply suffixes => some { s with execution := s.execution.supply suffixes }

/-- The shift after a move. -/
def act (s : Shift) (m : Move) : Shift := (s.step? m).getD s

/-- The shift after some moves. -/
def run (s : Shift) (moves : List Move) : Shift := moves.foldl act s

/-- The moves of a round at some time: the signal is looked at, and stages are started as long as that
is possible. -/
def round (s : Shift) (now : Instant) : List Move :=
  .look :: List.replicate s.execution.graph.size (.start now) ++ [.rest]

/-- The execution once it is over and has been concluded. A signal still counts. -/
def concluded (s : Shift) : Execution := s.execution.conclude s.signalled

end Shift

end Printworks
