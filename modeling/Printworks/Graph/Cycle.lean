/-!
# Finding a cycle

A search goes from stage to stage along edges and keeps the path that it has come. It has found a
cycle when it comes to a stage that stands on the path. Stages from which no cycle has been found
are not entered again.
-/

namespace Printworks.Graph

inductive Search where
  /-- A cycle, with its first stage again at the end. -/
  | found (cycle : List Nat)
  /-- No cycle from any of these stages. -/
  | exhausted (finished : List Nat)
  deriving DecidableEq, Inhabited

namespace Search

/-- Go on with a search, if it has not ended. -/
def andThen (s : Search) (next : List Nat → Search) : Search :=
  match s with
  | found cycle => found cycle
  | exhausted finished => next finished

/-- Search from several stages, one after the other. -/
def overAll (stages : List Nat) (visit : List Nat → Nat → Search) (finished : List Nat) : Search :=
  stages.foldl (fun s stage => s.andThen (fun finished => visit finished stage))
    (exhausted finished)

end Search

/-- The part of a path from a stage on, closed by that stage. -/
def closed (path : List Nat) (stage : Nat) : List Nat :=
  path.dropWhile (fun p => p != stage) ++ [stage]

/-- Search from a stage, having come along a path. The fuel bounds the length of the path. -/
def searchFrom (successors : Nat → List Nat) (fuel : Nat) (path finished : List Nat)
    (stage : Nat) : Search :=
  match fuel with
  | 0 => .exhausted finished
  | fuel + 1 =>
    -- A stage on the path is looked for first: meeting it again is what closes a cycle.
    let here := path ++ [stage]
    let search := Search.overAll (successors stage) (fun finished next =>
      if next ∈ here then .found (closed here next)
      else if next ∈ finished then .exhausted finished
      else searchFrom successors fuel here finished next) finished
    search.andThen (fun finished => .exhausted (stage :: finished))

/-- A cycle among the blocked stages, or nothing if there is none. -/
def findCycle (dependents : List (List Nat)) (blocked : List Nat) : List Nat :=
  let successors i := (dependents.getD i []).filter blocked.contains
  let search := Search.overAll blocked (fun finished start =>
    if start ∈ finished then .exhausted finished
    else searchFrom successors dependents.length [] finished start) []
  match search with
  | .found cycle => cycle
  | .exhausted _ => []

example : findCycle [[1], [2], [1]] [1, 2] = [1, 2, 1] := by decide

end Printworks.Graph
