/-!
# Orders that respect edges

Stages are put in order one at a time: of those whose predecessors all stand in the order already,
the one declared first. For each stage the number of predecessors that are still missing is kept;
the stages with none missing are ready. Where edges form a cycle, the stages on it and after it
never become ready.
-/

namespace Printworks.Graph

/-- Put a number at its place in an increasing list. -/
def insertSorted (n : Nat) (ns : List Nat) : List Nat :=
  match ns with
  | [] => [n]
  | m :: rest => if n ≤ m then n :: m :: rest else m :: insertSorted n rest

/-- The state of ordering: how many predecessors each stage misses, the stages that are ready, in
increasing order, and the order so far. -/
structure Sorting where
  missing : List Nat
  ready : List Nat
  order : List Nat
  deriving DecidableEq, Inhabited

namespace Sorting

/-- The state before any stage is placed. -/
def start (predecessors : List (List Nat)) : Sorting where
  missing := predecessors.map List.length
  ready := (List.range predecessors.length).filter (fun i => (predecessors.getD i []).isEmpty)
  order := []

/-- A stage has one predecessor less to wait for. -/
def release (s : Sorting) (i : Nat) : Sorting :=
  let left := s.missing.getD i 0 - 1
  { s with
    missing := s.missing.set i left
    ready := if left = 0 then insertSorted i s.ready else s.ready }

/-- Place the first stage that is ready, and release those that wait for it. -/
def step (dependents : List (List Nat)) (s : Sorting) : Sorting :=
  match s.ready with
  | [] => s
  | i :: rest =>
    (dependents.getD i []).foldl release { s with ready := rest, order := s.order ++ [i] }

/-- Place as many stages as given. -/
def run (dependents : List (List Nat)) (steps : Nat) (s : Sorting) : Sorting :=
  match steps with
  | 0 => s
  | steps + 1 => run dependents steps (s.step dependents)

/-- Place stages until none is ready. Each is placed at most once. -/
def finish (predecessors dependents : List (List Nat)) : Sorting :=
  (start predecessors).run dependents predecessors.length

/-- The stages that have not been released by all their predecessors. -/
def blocked (s : Sorting) : List Nat :=
  (List.range s.missing.length).filter (fun i => 0 < s.missing.getD i 0)

end Sorting

/-- The stages that are reached from those in the queue, the ones reached before included. -/
def reach (dependents : List (List Nat)) (fuel : Nat) (queue reached : List Nat) : List Nat :=
  match fuel, queue with
  | 0, _ => reached
  | _, [] => reached
  | fuel + 1, i :: rest =>
    if i ∈ reached then reach dependents fuel rest reached
    else reach dependents fuel (rest ++ dependents.getD i []) (i :: reached)

/-- The stages that are reached from a stage by one edge or more, in increasing order. Every stage
is queued once for each edge into it at most. -/
def reachable (dependents : List (List Nat)) (i : Nat) : List Nat :=
  let edges := dependents.flatten.length
  let reached := reach dependents (edges + edges + 1) (dependents.getD i []) []
  (List.range dependents.length).filter reached.contains

end Printworks.Graph
