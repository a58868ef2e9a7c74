import Printworks.Graph.Producers

/-!
# Edges between stages

An input that is for more than diagnosis makes its stage wait for the producer of the name that it
reads. Along the way every input is checked: something has to provide its name, with a type that it
takes.
-/

namespace Printworks

/-- The first output slot of a stage that writes a name. -/
def StageSpec.outputSlot? (s : StageSpec) (name : String) : Option Slot :=
  s.outputs.slots.find? (fun slot => s.outputName slot.name == name)

/-- The input slots that are for more than diagnosis. -/
def StageSpec.orderingInputs (s : StageSpec) : List Slot :=
  s.inputs.slots.filter (fun slot => !slot.isInternal)

namespace Graph

/-- What inputs can read: the outputs of stages and the attributes. -/
structure Sources where
  stages : List StageSpec
  attributes : Contract
  producers : Dict Nat

namespace Sources

/-- Whether something provides a name. -/
def provides (src : Sources) (name : String) : Bool :=
  src.producers.contains name || src.attributes.contains name

/-- The provider of a name: what it is called, and the slot with its type. -/
def provider? (src : Sources) (name : String) : Option (String × Slot) :=
  match src.producers.get? name with
  | some p => (src.stages[p]?.bind (·.outputSlot? name)).map (stageName src.stages p, ·)
  | none => (src.attributes.get? name).map ("attributes", ·)

/-- The type conflict of an input, if there is one. -/
def mismatch? (src : Sources) (stage : StageSpec) (slot : Slot) : Option GraphError :=
  let name := stage.inputName slot.name
  match src.provider? name with
  | none => none
  | some (producer, produced) =>
    if produced.type.satisfies slot.type then none
    else some (.typeMismatch name producer stage.name produced.type slot.type)

/-- The error of a stage that reads its own output. -/
def selfCycle? (src : Sources) (i : Nat) (stage : StageSpec) (slot : Slot) : Option GraphError :=
  if src.producers.get? (stage.inputName slot.name) = some i then
    some (.cycle [stage.name, stage.name])
  else none

/-- The error of a required input that nothing provides. The members of a group are checked as a
group. -/
def unsatisfied? (src : Sources) (stage : StageSpec) (slot : Slot) : Option GraphError :=
  let name := stage.inputName slot.name
  if slot.isRequired && !src.provides name then some (.unsatisfiableInput stage.name name)
  else none

/-- What is wrong with one input. -/
def inputErrors (src : Sources) (i : Nat) (stage : StageSpec) (slot : Slot) : List GraphError :=
  (src.selfCycle? i stage slot).toList ++ (src.mismatch? stage slot).toList ++
    (src.unsatisfied? stage slot).toList

/-- The groups among the inputs, with the names that their members read. -/
def groupNames (stage : StageSpec) : Dict (List String) :=
  stage.orderingInputs.foldl (fun groups slot =>
    match slot.oneOf with
    | none => groups
    | some group =>
      groups.insert group ((groups.get? group).getD [] ++ [stage.inputName slot.name])) ∅

/-- The groups none of whose members is provided. -/
def groupErrors (src : Sources) (stage : StageSpec) : List GraphError :=
  (groupNames stage).toList.filterMap (fun (group, members) =>
    if members.any src.provides then none
    else some (.unsatisfiableGroup stage.name group members))

def stageErrors (src : Sources) (i : Nat) (stage : StageSpec) : List GraphError :=
  stage.orderingInputs.flatMap (src.inputErrors i stage) ++ src.groupErrors stage

def errors (src : Sources) : List GraphError :=
  src.stages.zipIdx.flatMap (fun (stage, i) => src.stageErrors i stage)

/-- The stages that produce what a stage reads. -/
def suppliers (src : Sources) (stage : StageSpec) : List Nat :=
  stage.orderingInputs.filterMap (fun slot => src.producers.get? (stage.inputName slot.name))

/-- The other stages that a stage waits for, in increasing order. -/
def predecessorsOf (src : Sources) (i : Nat) (stage : StageSpec) : List Nat :=
  let suppliers := src.suppliers stage
  (List.range src.stages.length).filter (fun p => p != i && suppliers.contains p)

/-- For each stage, the stages that it waits for. -/
def predecessors (src : Sources) : List (List Nat) :=
  src.stages.zipIdx.map (fun (stage, i) => src.predecessorsOf i stage)

end Sources

/-- For each stage, the stages that wait for it, in increasing order. -/
def reversed (predecessors : List (List Nat)) : List (List Nat) :=
  (List.range predecessors.length).map (fun p =>
    (List.range predecessors.length).filter (fun i => (predecessors.getD i []).contains p))

end Graph

end Printworks
