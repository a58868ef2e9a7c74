import Printworks.Stage.Inquiry

/-!
# Scripts

A scripted stage does what its script says, action by action, and ends with the first failure that
is not guarded. `play` follows a script up to the point where the stage has to wait or ends; it
takes no time.
-/

namespace Printworks.Rehearsal

inductive Action where
  /-- Ask something and take note of the answer. -/
  | ask (inquiry : Inquiry)
  | setOutput (slot : String) (value : Value)
  /-- Set an output to the value of an input. -/
  | copy (source target : String)
  | sleep (ms : Nat)
  | cancel
  | awaitCancel
  | fail (error : StageError)
  /-- Let the next conditional writes to the registry fail, so many of them and no others. -/
  | spoilWrites (count : Nat)
  deriving DecidableEq, Inhabited

structure Step where
  action : Action
  /-- Whether a failure is noted and the script goes on. -/
  guarded : Bool
  deriving DecidableEq, Inhabited

/-- What a scripted stage does, in order. -/
abbrev Script := List Step

/-- What is noted of a scripted stage. -/
inductive Note where
  | started
  | answered (answer : Answer)
  | refused (error : StageError)
  deriving DecidableEq, Inhabited

/-- Where a script stops for now. -/
inductive Pause where
  | ended (result : Except StageError Workspace)
  | sleeping (ms : Nat) (workspace : Workspace) (rest : Script)
  | awaiting (workspace : Workspace) (rest : Script)
  deriving Inhabited

/-- What a stretch of a script has brought about. -/
structure Scene where
  notes : List Note
  /-- Whether the execution is cancelled now. -/
  signalled : Bool
  /-- How many of the next writes are to fail, if that has been said. -/
  spoiled : Option Nat
  pause : Pause
  deriving Inhabited

namespace Scene

/-- Put a note in front of all that follows. -/
def noting (note : Note) (s : Scene) : Scene := { s with notes := note :: s.notes }

end Scene

def copyInput (w : Workspace) (source target : String) : Except StageError Workspace :=
  match w.input source with
  | .error e => .error e
  | .ok v => w.setOutput target v

/-- Follow a script as far as it goes without waiting. `signalled` says whether the execution is
cancelled. -/
def play (signalled : Bool) (w : Workspace) (script : Script) : Scene :=
  match script with
  | [] => ⟨[], signalled, none, .ended (.ok w)⟩
  | ⟨action, guarded⟩ :: rest =>
    let refuse (e : StageError) : Scene :=
      if guarded then (play signalled w rest).noting (.refused e)
      else ⟨[], signalled, none, .ended (.error e)⟩
    match action with
    | .ask inquiry =>
      match w.ask inquiry with
      | .ok answer => (play signalled w rest).noting (.answered answer)
      | .error e => refuse e
    | .setOutput slot value =>
      match w.setOutput slot value with
      | .ok w => play signalled w rest
      | .error e => refuse e
    | .copy source target =>
      match copyInput w source target with
      | .ok w => play signalled w rest
      | .error e => refuse e
    | .sleep ms =>
      if ms = 0 then play signalled w rest else ⟨[], signalled, none, .sleeping ms w rest⟩
    | .cancel => play true w rest
    | .awaitCancel =>
      if signalled then play signalled w rest else ⟨[], signalled, none, .awaiting w rest⟩
    | .fail e => refuse e
    | .spoilWrites count =>
      let scene := play signalled w rest
      -- What is said later counts.
      { scene with spoiled := scene.spoiled <|> some count }

end Printworks.Rehearsal
