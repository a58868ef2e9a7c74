/-!
# Virtual time

Whatever runs in virtual time does all that it can at an instant before time passes, and time jumps
from one instant at which there is something to do to the next.
-/

namespace Printworks.Rehearsal

/-- Something that runs in virtual time, which is counted in milliseconds. -/
class Clockwork (State : Type) where
  now (s : State) : Nat
  /-- The next thing that can be done at this instant. -/
  step? (s : State) : Option State
  /-- The next instant at which there will be something to do. -/
  wake? (s : State) : Option Nat
  /-- Let the clock show a later instant. -/
  advance (time : Nat) (s : State) : State
  /-- A number of steps and of instants that is never used up. -/
  budget (s : State) : Nat

namespace Clockwork

variable {State : Type} [Clockwork State]

/-- Do all that can be done at this instant, at most a number of steps. -/
def settleWithin (fuel : Nat) (s : State) : State :=
  match fuel with
  | 0 => s
  | fuel + 1 =>
    match step? s with
    | none => s
    | some next => settleWithin fuel next

/-- Do all that can be done at this instant. -/
def settle (s : State) : State := settleWithin (budget s) s

/-- Let time pass until a condition holds at the end of an instant, through at most a number of
instants. Time does not pass beyond an instant after which nothing is left to do. -/
def passWithin (fuel : Nat) (last : Option Nat) (stop : State → Bool) (s : State) : State :=
  match fuel with
  | 0 => s
  | fuel + 1 =>
    let s := settle s
    if stop s then s
    else
      match wake? s with
      | none => s
      | some time =>
        -- An instant beyond the last one is left for the next time somebody waits.
        if last.any (fun l => decide (l < time)) then s
        else passWithin fuel last stop (advance time s)

/-- Let time pass until a condition holds, or until nothing is left to do. -/
def passUntil (stop : State → Bool) (s : State) : State := passWithin (budget s) none stop s

/-- Let time pass up to an instant. -/
def passTo (time : Nat) (s : State) : State :=
  advance time (passWithin (budget s) (some time) (fun _ => false) s)

/-- Let time pass up to an instant at which nothing is done yet. -/
def passUpTo (time : Nat) (s : State) : State :=
  if now s < time then
    advance time (passWithin (budget s) (some (time - 1)) (fun _ => false) s)
  else s

end Clockwork

end Printworks.Rehearsal
