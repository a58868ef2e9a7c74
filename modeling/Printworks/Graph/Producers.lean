import Printworks.Graph.Error
import Printworks.Stage.Spec
import Printworks.Suffixes

/-!
# Who produces which name

An output is explicit if other stages may rely on the name that it writes. Explicit outputs own
their names; a name may have one owner, and none if it is an attribute. Every other output gives
way: it is renamed if its name is taken.
-/

namespace Printworks

/-- The names that the explicit outputs of a stage write, in order of their slots. -/
def StageSpec.explicitNames (s : StageSpec) : List String :=
  (s.outputs.slots.filter s.isExplicit).map (fun slot => s.outputName slot.name)

/-- The internal outputs whose names have not been chosen by a mapping. -/
def StageSpec.unmappedInternals (s : StageSpec) : List String :=
  (s.outputs.slots.filter (fun slot => !s.isExplicit slot)).map (·.name)

namespace Graph

/-- The explicit names by stage and slot, each with the index of the stage that writes it. -/
def explicitWrites (stages : List StageSpec) : List (String × Nat) :=
  stages.zipIdx.flatMap (fun (stage, i) => stage.explicitNames.map (fun name => (name, i)))

/-- The stages that own each name, in order, once for each slot. -/
def owners (stages : List StageSpec) : Dict (List Nat) :=
  (explicitWrites stages).foldl (fun found (name, i) =>
    found.insert name ((found.get? name).getD [] ++ [i])) ∅

/-- The stage that produces each name: the first one that owns it. -/
def producersOf (stages : List StageSpec) : Dict Nat :=
  (owners stages).map (fun indices => indices.headD 0)

def stageName (stages : List StageSpec) (i : Nat) : String := (stages[i]?.map (·.name)).getD ""

/-- What is wrong with the owners of one name. -/
def ownerErrors (stages : List StageSpec) (attributes : Contract) (name : String)
    (indices : List Nat) : List GraphError :=
  let ownerNames := indices.map (stageName stages)
  (if 1 < indices.length then [.ambiguousProducer name ownerNames] else []) ++
    (if attributes.contains name then ownerNames.map (fun owner => .shadowsAttribute owner name)
    else [])

/-- What is wrong with the owners of names. -/
def producerErrors (stages : List StageSpec) (attributes : Contract) : List GraphError :=
  (owners stages).toList.flatMap (fun (name, indices) =>
    ownerErrors stages attributes name indices)

/-- The names in use and the supply of suffixes while outputs are renamed. -/
structure Naming where
  taken : List String
  suffixes : Suffixes

/-- Give an unmapped internal output a free name, and record the name as a mapping if it differs
from the slot's. -/
def renameSlot (state : Naming × Dict String) (slot : String) : Naming × Dict String :=
  let (naming, mapping) := state
  let (name, suffixes) := Suffixes.fresh naming.taken slot naming.suffixes
  (⟨name :: naming.taken, suffixes⟩, if name = slot then mapping else mapping.insert slot name)

/-- Give the unmapped internal outputs of a stage free names. -/
def renameStage (naming : Naming) (stage : StageSpec) : Naming × StageSpec :=
  let (naming, mapping) :=
    stage.unmappedInternals.foldl renameSlot (naming, stage.outputMapping)
  (naming, { stage with outputMapping := mapping })

/-- Give the unmapped internal outputs of all stages free names, stage by stage. -/
def renameStages (naming : Naming) (stages : List StageSpec) : Naming × List StageSpec :=
  match stages with
  | [] => (naming, [])
  | stage :: rest =>
    let (naming, stage) := renameStage naming stage
    let (naming, rest) := renameStages naming rest
    (naming, stage :: rest)

/-- The stages with their internal outputs renamed: free names are those that have no owner, are no
attributes and have been given to no output before. -/
def renameInternals (stages : List StageSpec) (attributes : Contract) (suffixes : Suffixes) :
    List StageSpec × Suffixes :=
  let taken := (producersOf stages).keys ++ attributes.names
  let (naming, stages) := renameStages ⟨taken, suffixes⟩ stages
  (stages, naming.suffixes)

end Graph

end Printworks
