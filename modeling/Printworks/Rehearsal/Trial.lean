import Printworks.Rehearsal.Floor

/-!
# Trials

A trial is the rehearsal of one execution that has the floor to itself.
-/

namespace Printworks.Rehearsal

/-- One execution that is to be rehearsed. -/
structure Trial where
  executionId : String
  pipeline : Pipeline Script
  seed : Dict Value
  permits : Nat
  /-- Whether the execution is told to stop before it starts. -/
  cancelled : Bool
  /-- The millisecond at which the execution is told to stop. -/
  cancelAt : Option Nat

/-- What is known of a trial when it has ended. -/
structure Trial.Result where
  report : ExecutionReport
  events : List Event
  log : Dict (List Note)
  deriving Inhabited

namespace Trial

/-- Whether an execution has ended. -/
def hasEnded (run : Nat) (f : Floor) : Bool := f.runs[run]?.any (·.conclusion.isSome)

/-- The floor at the end of a trial. -/
def conduct (t : Trial) (suffixes : Suffixes) : Floor :=
  let empty := Floor.start (.ofMillis 0) t.permits suffixes
  let (run, f) := empty.launch 0 t.executionId t.pipeline t.seed t.cancelled
  let f := match t.cancelAt with
    | none => f
    | some time => (Clockwork.passTo time f).signal run
  Clockwork.passUntil (hasEnded run) f

/-- The result of a trial, if the execution has ended. It does not end if a stage waits for a
cancellation that never comes. -/
def result? (t : Trial) (suffixes : Suffixes) : Option Result :=
  let f := t.conduct suffixes
  match f.runs with
  | [r] => r.conclusion.map (fun e => ⟨e.report, e.events, f.log⟩)
  | _ => none

end Trial

end Printworks.Rehearsal
