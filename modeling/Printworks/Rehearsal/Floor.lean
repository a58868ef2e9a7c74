import Printworks.Execution.Shift
import Printworks.Pipeline
import Printworks.Rehearsal.Clockwork
import Printworks.Rehearsal.Script

/-!
# The floor

Executions of scripted stages that share a number of permits. Whoever can go on stands in a queue,
and who stands first goes on until it has to wait. A stage holds a permit from its start until its
end. An execution takes note of all the ends that it finds, in their order, before a stage that it
starts meanwhile goes on. An execution that has nothing running and finds no permit waits in line,
and a permit that comes back is kept for the execution that has waited longest.

Whoever waits for the same instant goes on in the order in which the waiting began.
-/

namespace Printworks.Rehearsal

/-- Who may stand in the queue. -/
inductive Party where
  | stage (run stage : Nat)
  /-- Whoever has put an execution on the floor; the execution goes on along with it. -/
  | client (n : Nat)
  | deadline (n : Nat)
  deriving DecidableEq, Inhabited

structure Actor where
  run : Nat
  stage : Nat
  /-- Its workspace, once it has read its inputs. -/
  workspace : Option Workspace
  /-- What is left of its script. -/
  script : Script
  deriving Inhabited

/-- An execution on the floor. -/
structure Run where
  shift : Shift
  pipeline : Pipeline Script
  /-- Who has put it on the floor. -/
  client : Nat
  /-- The stages whose ends have to be taken note of, in the order of their ends. -/
  ended : List Nat
  watchers : List Party
  conclusion : Option Execution

/-- An instant for which somebody waits. -/
structure Alarm where
  time : Nat
  party : Party
  deriving Inhabited

/-- Executions that share permits. -/
structure Floor where
  opening : Instant
  now : Nat
  /-- How many stages may run at once. -/
  limit : Nat
  runs : List Run
  /-- The stages that hold permits, in the order in which they started. -/
  actors : List Actor
  /-- The executions that wait for a permit, the longest first. -/
  line : List Nat
  /-- The executions for which a permit is kept. -/
  granted : List Nat
  queue : List Party
  /-- Who waits for an instant, in the order in which the waiting began. -/
  alarms : List Alarm
  /-- The notes of all stages of a name. -/
  log : Dict (List Note)
  /-- How many of the next writes are to fail, if a stage has said so since this was last looked
  at. -/
  spoiled : Option Nat
  suffixes : Suffixes

/-- Whether this is a certain stage of an execution. -/
def Actor.isAt (run stage : Nat) (a : Actor) : Bool := a.run == run && a.stage == stage

namespace Run

/-- The execution, at its end if it has ended. -/
def execution (r : Run) : Execution := r.conclusion.getD r.shift.execution

def signalled (r : Run) : Bool := r.shift.signalled

/-- The report, once the execution has ended. -/
def report (r : Run) : Option ExecutionReport := r.conclusion.map Execution.report

def play (moves : List Move) (r : Run) : Run := { r with shift := r.shift.run moves }

/-- Wait for the signal along with those who do, behind them. -/
def watch (p : Party) (r : Run) : Run :=
  { r with watchers := r.watchers.filter (fun q => q != p) ++ [p] }

/-- Take note of the end of the execution, if it has ended. -/
def conclude (r : Run) : Run :=
  if r.shift.place = .finished then
    { r with watchers := [], conclusion := some r.shift.concluded }
  else r

end Run

namespace Floor

/-- A floor on which nothing has happened. -/
def start (opening : Instant) (limit : Nat) (suffixes : Suffixes) : Floor :=
  ⟨opening, 0, limit, [], [], [], [], [], [], ∅, none, suffixes⟩

def time (f : Floor) : Instant := .ofMillis (f.opening.millis + f.now)

/-- How many permits others than an execution hold, along with those that are kept. -/
def others (f : Floor) (run : Nat) : Nat :=
  f.actors.countP (fun a => a.run != run) + f.granted.length

def updateRun (f : Floor) (run : Nat) (change : Run → Run) : Floor :=
  { f with runs := f.runs.modify run change }

def updateActor (f : Floor) (a : Actor) : Floor :=
  { f with actors := f.actors.map (fun b => if b.isAt a.run a.stage then a else b) }

/-- Somebody can go on, after all who can already. -/
def wake (f : Floor) (p : Party) : Floor :=
  if f.queue.contains p then f else { f with queue := f.queue ++ [p] }

/-- Let somebody wait for an instant. -/
def waitUntil (f : Floor) (time : Nat) (p : Party) : Floor :=
  { f with alarms := f.alarms ++ [⟨time, p⟩] }

/-- Nobody waits for an instant any more who did so for a certain reason. -/
def dropAlarm (f : Floor) (p : Party) : Floor :=
  { f with alarms := f.alarms.filter (fun a => a.party != p) }

/-- Note something about the stages of a name. -/
def note (f : Floor) (stage : String) (notes : List Note) : Floor :=
  if notes.isEmpty then f
  else { f with log := f.log.insert stage ((f.log.get? stage).getD [] ++ notes) }

/-- Tell an execution to stop. Being told again changes nothing. -/
def signal (f : Floor) (run : Nat) : Floor :=
  match f.runs[run]? with
  | none => f
  | some r =>
    if r.signalled then f
    else r.watchers.foldl wake
      (f.updateRun run (fun r => { r.play [.signal] with watchers := [] }))

/-- The actors for the stages of an execution that work and have none. -/
def newcomers (f : Floor) (run : Nat) (r : Run) : List Actor :=
  (r.shift.execution.inFlight.filter (fun flight =>
      !flight.hasEnded && !f.actors.any (Actor.isAt run flight.stage))).map (fun flight =>
    ⟨run, flight.stage, none, (r.pipeline.implementation? flight.stage).getD []⟩)

/-- Let an execution make some moves and then a round. The stages that it starts take permits. -/
def round (first : List Move) (f : Floor) (run : Nat) : Floor :=
  match f.runs[run]? with
  | none => f
  | some r =>
    let r := r.play (.occupy (f.others run) :: first ++ r.shift.round f.time)
    let actors := f.newcomers run r
    actors.foldl (fun f a => f.wake (.stage a.run a.stage))
      { f.updateRun run (fun _ => r) with actors := f.actors ++ actors }

/-- An execution takes note of the end of a stage. -/
def settle (run : Nat) (f : Floor) (stage : Nat) : Floor :=
  f.round [.settle stage f.time] run

/-- An execution that can do nothing more ends if nothing runs and nothing can be started; else it
waits, in line for a permit if nothing runs. -/
def rest (f : Floor) (run : Nat) : Floor :=
  match f.runs[run]? with
  | none => f
  | some r =>
    match r.shift.place with
    | .finished => f.updateRun run Run.conclude
    | place =>
      let f := if place = .queueing then { f with line := f.line ++ [run] } else f
      -- Once it has noticed that it is to stop there is nothing more to wait for in that matter.
      if r.signalled then f else f.updateRun run (Run.watch (.client r.client))

/-- An execution goes on until it has to wait. -/
def proceed (f : Floor) (run : Nat) : Floor :=
  match f.runs[run]? with
  | none => f
  | some r =>
    if r.conclusion.isSome then f
    else if f.granted.contains run then
      ({ f with granted := f.granted.erase run }.round [.acquire f.time] run).rest run
    else if f.line.contains run then
      if r.signalled then ({ f with line := f.line.erase run }.round [.wake] run).rest run else f
    else
      match r.ended with
      | [] => (f.round [.wake] run).rest run
      | ended =>
        (ended.foldl (settle run) (f.updateRun run (fun r => { r with ended := [] }))).rest run

/-- Put an execution on the floor. Gives its number. -/
def launch (f : Floor) (client : Nat) (id : String) (pipeline : Pipeline Script)
    (seed : Dict Value) (signalled : Bool) : Nat × Floor :=
  let run := f.runs.length
  let shift := Shift.start ⟨f.limit⟩ id pipeline.graph seed f.suffixes
  let shift := if signalled then shift.act .signal else shift
  let r : Run := ⟨shift, pipeline, client, [], [], none⟩
  (run, { f with runs := f.runs ++ [r] }.proceed run)

/-- A permit comes back. -/
def returnPermit (f : Floor) : Floor :=
  match f.line with
  | [] => f
  | run :: line =>
    let f := { f with line := line, granted := f.granted ++ [run] }
    (f.runs[run]?).elim f (fun r => f.wake (.client r.client))

/-- A stage has ended and leaves the floor. -/
def leave (f : Floor) (a : Actor) (client : Nat) : Floor :=
  let f := { f with actors := f.actors.filter (fun b => !b.isAt a.run a.stage) }
  ((f.updateRun a.run (fun r => { r with ended := r.ended ++ [a.stage] })).returnPermit).wake
    (.client client)

/-- Let a stage of an execution end. The names that it stores come from the suffixes of the
floor. -/
def deliver (f : Floor) (a : Actor) (r : Run) (result : Except StageError Workspace) : Floor :=
  let f := f.updateRun a.run (Run.play [.supply f.suffixes, .deliver a.stage (.ofResult result)])
  { f with
    suffixes := (f.runs[a.run]?).elim f.suffixes (·.shift.execution.context.suffixes) }.leave a
    r.client

/-- Leave a stage where its script has paused. -/
def pauseActor (f : Floor) (a : Actor) (r : Run) (pause : Pause) : Floor :=
  match pause with
  | .ended result => f.deliver a r result
  | .sleeping ms w rest =>
    (f.updateActor { a with workspace := some w, script := rest }).waitUntil (f.now + ms)
      (.stage a.run a.stage)
  | .awaiting w rest =>
    (f.updateActor { a with workspace := some w, script := rest }).updateRun a.run
      (Run.watch (.stage a.run a.stage))

/-- A stage goes on with its script. -/
def perform (f : Floor) (a : Actor) (r : Run) (w : Workspace) : Floor :=
  let scene := play r.signalled w a.script
  let f := { f.note w.spec.name scene.notes with spoiled := scene.spoiled <|> f.spoiled }
  let f := if scene.signalled then f.signal a.run else f
  f.pauseActor a r scene.pause

/-- A stage that has been started reads its inputs, one after the other, and begins with its
script. -/
def enter (f : Floor) (a : Actor) (r : Run) : Floor :=
  let r := r.play (List.replicate (r.shift.execution.graph.inputCount a.stage + 1) (.enter a.stage))
  let f := f.updateRun a.run (fun _ => r)
  match r.shift.execution.workspace? a.stage with
  | none => f.leave a r.client
  | some w => (f.note w.spec.name [.started]).perform a r w

/-- A stage goes on until it has to wait. -/
def act (f : Floor) (run stage : Nat) : Floor :=
  match f.actors.find? (Actor.isAt run stage), f.runs[run]? with
  | some a, some r =>
    match a.workspace with
    | none => f.enter a r
    | some w => f.perform a r w
  | _, _ => f

/-- The execution of a client goes on. -/
def serve (f : Floor) (client : Nat) : Floor :=
  ((f.runs.findIdx? (fun r => r.client == client)).map f.proceed).getD f

/-- Let somebody go on. -/
def take (f : Floor) (p : Party) : Floor :=
  match p with
  | .stage run stage => f.act run stage
  | .client n => f.serve n
  | .deadline _ => f

/-- Let whoever stands first go on. -/
def step? (f : Floor) : Option Floor :=
  match f.queue with
  | [] => none
  | p :: rest => some ({ f with queue := rest }.take p)

/-- How much can happen to the executions of a pipeline at most: a stage may go on after each of its
actions, and its execution may be woken by its end, by a permit and by a signal. -/
def pipelineBudget (p : Pipeline Script) : Nat :=
  p.implementations.foldl (fun n script => n + script.length + 8) 8

/-- The next instant for which somebody waits. -/
def wake? (f : Floor) : Option Nat := (f.alarms.map Alarm.time).min?

/-- Let the clock show a later instant. Who has waited for it can go on. -/
def advance (time : Nat) (f : Floor) : Floor :=
  (f.alarms.filter (fun a => a.time ≤ time)).foldl (fun f a => f.wake a.party)
    { f with now := time, alarms := f.alarms.filter (fun a => time < a.time) }

instance : Clockwork Floor where
  now := now
  step? := step?
  wake? := wake?
  advance := advance
  budget f := f.runs.foldl (fun n r => n + pipelineBudget r.pipeline) 1

end Floor

end Printworks.Rehearsal
