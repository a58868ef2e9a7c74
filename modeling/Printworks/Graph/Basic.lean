import Printworks.Graph.Edges
import Printworks.Graph.Order
import Printworks.Graph.Cycle

/-!
# Graphs of stages

`Graph.build` checks a set of stages and derives who waits for whom. It reports every error that it
finds. Stages are addressed by their place in the declaration, and every list of stages is in
increasing order.
-/

namespace Printworks

/-- A checked set of stages and the order among them. -/
structure Graph where
  stages : List StageSpec
  attributes : Contract
  /-- For each stage, the stages that it waits for. -/
  predecessorLists : List (List Nat)
  /-- For each stage, the stages that wait for it. -/
  dependentLists : List (List Nat)
  /-- The stage that produces each name. -/
  producers : Dict Nat
  /-- All stages, each after those that it waits for. -/
  order : List Nat
  deriving DecidableEq, Inhabited

namespace Graph

/-- The names that stand a second or further time in a list, once for each such place. -/
def repeated (seen names : List String) : List String :=
  match names with
  | [] => []
  | name :: rest => if name ∈ seen then name :: repeated seen rest else repeated (name :: seen) rest

/-- Stages that have the name of an earlier one. -/
def duplicateErrors (stages : List StageSpec) : List GraphError :=
  (repeated [] (stages.map (·.name))).map .duplicateStage

/-- The mapped slots that a stage does not declare. -/
def unknownMappings (stage : StageSpec) : List String :=
  stage.inputMapping.keys.filter (fun slot => !stage.inputs.contains slot) ++
    stage.outputMapping.keys.filter (fun slot => !stage.outputs.contains slot)

/-- Mappings of slots that their stages do not declare. -/
def mappingErrors (stages : List StageSpec) : List GraphError :=
  stages.flatMap (fun stage => (unknownMappings stage).map (.unknownMapping stage.name))

/-- The cycle that keeps stages out of the order, if any is kept out. -/
def cycleErrors (stages : List StageSpec) (dependents : List (List Nat)) (sorting : Sorting) :
    List GraphError :=
  if sorting.order.length < stages.length then
    [.cycle ((findCycle dependents sorting.blocked).map (stageName stages))]
  else []

/-- Everything that is wrong with a set of stages, or their graph. Outputs for diagnosis may be
renamed; the graph carries the stages with their new mappings. -/
def build (stages : List StageSpec) (attributes : Contract) (suffixes : Suffixes) :
    Except (List GraphError) (Graph × Suffixes) :=
  -- Renaming touches only names that nobody owns, so the owners are those of the stages as given.
  let producers := producersOf stages
  let (renamed, suffixes) := renameInternals stages attributes suffixes
  let src : Sources := ⟨renamed, attributes, producers⟩
  let predecessors := src.predecessors
  let dependents := reversed predecessors
  let sorting := Sorting.finish predecessors dependents
  let errors := duplicateErrors stages ++ mappingErrors stages ++
    producerErrors stages attributes ++ src.errors ++ cycleErrors renamed dependents sorting
  if errors.isEmpty then
    .ok (⟨renamed, attributes, predecessors, dependents, producers, sorting.order⟩, suffixes)
  else .error errors

def size (g : Graph) : Nat := g.stages.length

/-- How many inputs a stage reads. -/
def inputCount (g : Graph) (i : Nat) : Nat := (g.stages[i]?).elim 0 (·.inputs.slots.length)

def predecessors (g : Graph) (i : Nat) : List Nat := g.predecessorLists.getD i []

def dependents (g : Graph) (i : Nat) : List Nat := g.dependentLists.getD i []

/-- The stages that wait for none. -/
def roots (g : Graph) : List Nat :=
  (List.range g.size).filter (fun i => (g.predecessors i).isEmpty)

/-- The stages that wait for a stage, directly or through others. -/
def transitiveDependents (g : Graph) (i : Nat) : List Nat := reachable g.dependentLists i

def producer? (g : Graph) (name : String) : Option Nat := g.producers.get? name

def index? (g : Graph) (name : String) : Option Nat := g.stages.findIdx? (fun s => s.name == name)

def stageNames (g : Graph) : List String := g.stages.map (·.name)

end Graph

end Printworks
