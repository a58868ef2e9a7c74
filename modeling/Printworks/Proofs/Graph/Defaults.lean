import Printworks.Proofs.Graph.Defects
import Printworks.Proofs.Stage.Encoding

/-!
# What building does not look at

Building a graph looks neither at the values of defaults nor, where it decides whether to accept the
stages, at the supply of suffixes. The first is shown by replacing all defaults, with which every
step of building commutes. For the second the provider of a name is found among the stages as they
were declared.
-/

namespace Printworks

/-! ### Contracts and stages -/

section

variable (f : Value → Value)

namespace StageSpec

variable (s : StageSpec)

@[simp] theorem mapDefaults_name : (s.mapDefaults f).name = s.name := rfl
@[simp] theorem mapDefaults_inputMapping : (s.mapDefaults f).inputMapping = s.inputMapping := rfl
@[simp] theorem mapDefaults_outputMapping : (s.mapDefaults f).outputMapping = s.outputMapping := rfl
@[simp] theorem mapDefaults_inputs : (s.mapDefaults f).inputs = s.inputs.mapDefaults f := rfl
@[simp] theorem mapDefaults_outputs : (s.mapDefaults f).outputs = s.outputs.mapDefaults f := rfl

@[simp] theorem mapDefaults_inputName : (s.mapDefaults f).inputName = s.inputName := rfl
@[simp] theorem mapDefaults_outputName : (s.mapDefaults f).outputName = s.outputName := rfl

/-- Outputs are filtered by what does not depend on their defaults. -/
theorem mapDefaults_filter {c : Contract} {keep : Slot → Bool}
    (same : ∀ slot, keep (slot.mapDefault f) = keep slot) :
    (c.mapDefaults f).slots.filter keep = (c.slots.filter keep).map (·.mapDefault f) := by
  rw [Contract.mapDefaults, List.filter_map]
  congr 1
  exact List.filter_congr (fun slot _ => same slot)

theorem mapDefaults_isExplicit (slot : Slot) :
    (s.mapDefaults f).isExplicit (slot.mapDefault f) = s.isExplicit slot := by
  simp [isExplicit]

@[simp] theorem mapDefaults_explicitNames : (s.mapDefaults f).explicitNames = s.explicitNames := by
  rw [explicitNames, mapDefaults_outputs, mapDefaults_filter f (s.mapDefaults_isExplicit f),
    List.map_map]
  rfl

@[simp] theorem mapDefaults_unmappedInternals :
    (s.mapDefaults f).unmappedInternals = s.unmappedInternals := by
  have same (slot : Slot) : (!(s.mapDefaults f).isExplicit (slot.mapDefault f)) =
      !s.isExplicit slot := by
    rw [mapDefaults_isExplicit]
  rw [unmappedInternals, mapDefaults_outputs, mapDefaults_filter f same, List.map_map]
  rfl

@[simp] theorem mapDefaults_orderingInputs :
    (s.mapDefaults f).orderingInputs = s.orderingInputs.map (·.mapDefault f) := by
  apply mapDefaults_filter
  simp

@[simp] theorem mapDefaults_outputSlot? (name : String) :
    (s.mapDefaults f).outputSlot? name = (s.outputSlot? name).map (·.mapDefault f) := by
  simp only [outputSlot?, mapDefaults_outputs, Contract.mapDefaults, List.find?_map]
  rfl

end StageSpec

namespace Graph

/-- The graph with all defaults replaced. -/
def mapDefaults (g : Graph) : Graph :=
  { g with stages := g.stages.map (·.mapDefaults f), attributes := g.attributes.mapDefaults f }

/-! ### Owners and names -/

variable (stages : List StageSpec) (attributes : Contract)

theorem explicitWrites_mapDefaults :
    explicitWrites (stages.map (·.mapDefaults f)) = explicitWrites stages := by
  simp [explicitWrites, List.zipIdx_map, List.flatMap_map]

theorem owners_mapDefaults : owners (stages.map (·.mapDefaults f)) = owners stages := by
  rw [owners, explicitWrites_mapDefaults, owners]

theorem producersOf_mapDefaults :
    producersOf (stages.map (·.mapDefaults f)) = producersOf stages := by
  rw [producersOf, owners_mapDefaults, producersOf]

theorem stageName_mapDefaults : stageName (stages.map (·.mapDefaults f)) = stageName stages := by
  funext i
  simp only [stageName, List.getElem?_map, Option.map_map]
  rfl

theorem duplicateErrors_mapDefaults :
    duplicateErrors (stages.map (·.mapDefaults f)) = duplicateErrors stages := by
  rw [duplicateErrors, List.map_map]
  rfl

theorem mappingErrors_mapDefaults :
    mappingErrors (stages.map (·.mapDefaults f)) = mappingErrors stages := by
  simp [mappingErrors, unknownMappings, List.flatMap_map]

theorem producerErrors_mapDefaults :
    producerErrors (stages.map (·.mapDefaults f)) (attributes.mapDefaults f) =
      producerErrors stages attributes := by
  simp only [producerErrors, owners_mapDefaults, ownerErrors, stageName_mapDefaults,
    Contract.mapDefaults_contains]

theorem renameStage_mapDefaults (naming : Naming) (stage : StageSpec) :
    renameStage naming (stage.mapDefaults f) =
      ((renameStage naming stage).1, (renameStage naming stage).2.mapDefaults f) := by
  simp only [renameStage, StageSpec.mapDefaults_unmappedInternals,
    StageSpec.mapDefaults_outputMapping]
  rfl

theorem renameStages_mapDefaults (naming : Naming) :
    renameStages naming (stages.map (·.mapDefaults f)) =
      ((renameStages naming stages).1, (renameStages naming stages).2.map (·.mapDefaults f)) := by
  induction stages generalizing naming with
  | nil => rfl
  | cons stage rest ih =>
    simp only [List.map_cons, renameStages, renameStage_mapDefaults]
    rw [ih]

theorem renameInternals_mapDefaults (suffixes : Suffixes) :
    renameInternals (stages.map (·.mapDefaults f)) (attributes.mapDefaults f) suffixes =
      ((renameInternals stages attributes suffixes).1.map (·.mapDefaults f),
        (renameInternals stages attributes suffixes).2) := by
  simp only [renameInternals, producersOf_mapDefaults, Contract.mapDefaults_names,
    renameStages_mapDefaults]

/-! ### Inputs and edges -/

namespace Sources

/-- What inputs can read, with all defaults replaced. -/
def mapDefaults (src : Sources) : Sources :=
  ⟨src.stages.map (·.mapDefaults f), src.attributes.mapDefaults f, src.producers⟩

variable (src : Sources)

theorem provides_mapDefaults : (src.mapDefaults f).provides = src.provides := by
  funext name
  simp [provides, mapDefaults]

theorem provider?_mapDefaults (name : String) : (src.mapDefaults f).provider? name =
    (src.provider? name).map (fun found => (found.1, found.2.mapDefault f)) := by
  simp only [provider?, mapDefaults, stageName_mapDefaults, List.getElem?_map,
    Contract.mapDefaults_get?]
  cases src.producers.get? name with
  | none => simp [Function.comp_def]
  | some p =>
    simp only
    cases src.stages[p]? with
    | none => rfl
    | some stage => simp [Function.comp_def]

theorem mismatch?_mapDefaults (stage : StageSpec) (slot : Slot) :
    (src.mapDefaults f).mismatch? (stage.mapDefaults f) (slot.mapDefault f) =
      src.mismatch? stage slot := by
  simp only [mismatch?, provider?_mapDefaults, StageSpec.mapDefaults_inputName,
    Slot.mapDefault_name]
  cases src.provider? (stage.inputName slot.name) with
  | none => rfl
  | some found => rfl

theorem unsatisfied?_mapDefaults (stage : StageSpec) (slot : Slot) :
    (src.mapDefaults f).unsatisfied? (stage.mapDefaults f) (slot.mapDefault f) =
      src.unsatisfied? stage slot := by
  simp only [unsatisfied?, provides_mapDefaults, StageSpec.mapDefaults_inputName,
    Slot.mapDefault_name, Slot.mapDefault_isRequired, StageSpec.mapDefaults_name]

theorem inputErrors_mapDefaults (i : Nat) (stage : StageSpec) (slot : Slot) :
    (src.mapDefaults f).inputErrors i (stage.mapDefaults f) (slot.mapDefault f) =
      src.inputErrors i stage slot := by
  rw [inputErrors, mismatch?_mapDefaults, unsatisfied?_mapDefaults]
  rfl

theorem groupErrors_mapDefaults (stage : StageSpec) :
    (src.mapDefaults f).groupErrors (stage.mapDefaults f) = src.groupErrors stage := by
  have groups : groupNames (stage.mapDefaults f) = groupNames stage := by
    rw [groupNames, StageSpec.mapDefaults_orderingInputs, List.foldl_map]
    rfl
  rw [groupErrors, groups, provides_mapDefaults]
  rfl

theorem stageErrors_mapDefaults (i : Nat) (stage : StageSpec) :
    (src.mapDefaults f).stageErrors i (stage.mapDefaults f) = src.stageErrors i stage := by
  rw [stageErrors, groupErrors_mapDefaults, StageSpec.mapDefaults_orderingInputs,
    List.flatMap_map]
  simp only [inputErrors_mapDefaults]
  rfl

theorem errors_mapDefaults : (src.mapDefaults f).errors = src.errors := by
  simp only [errors, mapDefaults, List.zipIdx_map, List.flatMap_map]
  exact List.flatMap_congr (fun place _ => src.stageErrors_mapDefaults f place.2 place.1)

theorem predecessors_mapDefaults : (src.mapDefaults f).predecessors = src.predecessors := by
  have suppliers (stage : StageSpec) :
      (src.mapDefaults f).suppliers (stage.mapDefaults f) = src.suppliers stage := by
    rw [Sources.suppliers, StageSpec.mapDefaults_orderingInputs, List.filterMap_map]
    rfl
  have length : (src.mapDefaults f).stages.length = src.stages.length := List.length_map _
  simp only [predecessors, predecessorsOf, length]
  rw [show (src.mapDefaults f).stages = src.stages.map (·.mapDefaults f) from rfl,
    List.zipIdx_map, List.map_map]
  refine List.map_congr_left (fun place _ => ?_)
  simp only [Function.comp_apply, Prod.map, suppliers]
  rfl

end Sources

/-! ### Building -/

theorem cycleErrors_mapDefaults (dependents : List (List Nat)) (sorting : Sorting) :
    cycleErrors (stages.map (·.mapDefaults f)) dependents sorting =
      cycleErrors stages dependents sorting := by
  rw [cycleErrors, List.length_map, stageName_mapDefaults, cycleErrors]

/-- Building from stages with other defaults gives the same graph with those defaults, or the same
errors. -/
theorem build_mapDefaults (suffixes : Suffixes) :
    build (stages.map (·.mapDefaults f)) (attributes.mapDefaults f) suffixes =
      (build stages attributes suffixes).map (fun built => (built.1.mapDefaults f, built.2)) := by
  rw [build, renameInternals_mapDefaults, build]
  generalize renameInternals stages attributes suffixes = named
  obtain ⟨renamed, rest⟩ := named
  have src : Sources.mk (renamed.map (·.mapDefaults f)) (attributes.mapDefaults f)
      (producersOf stages) = (Sources.mk renamed attributes (producersOf stages)).mapDefaults f := rfl
  simp only [producersOf_mapDefaults, src, Sources.predecessors_mapDefaults,
    Sources.errors_mapDefaults, duplicateErrors_mapDefaults, mappingErrors_mapDefaults,
    producerErrors_mapDefaults, cycleErrors_mapDefaults]
  split
  · rfl
  · rfl

variable {stages attributes} {suffixes : Suffixes} {g : Graph}

theorem Accepts.mapDefaults (accepted : g.Accepts stages attributes suffixes) :
    (g.mapDefaults f).Accepts (stages.map (·.mapDefaults f)) (attributes.mapDefaults f)
      suffixes := by
  obtain ⟨rest, built⟩ := accepted
  refine ⟨rest, ?_⟩
  rw [build_mapDefaults, built]
  rfl

theorem exists_accepts_mapDefaults :
    (∃ g : Graph, g.Accepts (stages.map (·.mapDefaults f)) (attributes.mapDefaults f) suffixes) ↔
      ∃ g : Graph, g.Accepts stages attributes suffixes := by
  constructor
  · rintro ⟨g, rest, built⟩
    rw [build_mapDefaults] at built
    cases original : build stages attributes suffixes with
    | error errors =>
      rw [original] at built
      cases built
    | ok result => exact ⟨result.1, result.2, original⟩
  · rintro ⟨g, accepted⟩
    exact ⟨_, accepted.mapDefaults f⟩

end Graph

end

/-! ### Suffixes -/

namespace Graph

variable {stages : List StageSpec} {attributes : Contract}

/-- The provider of a name does not depend on the suffixes that have been drawn. -/
theorem Sources.provider?_suffixes (suffixes suffixes' : Suffixes) :
    (sources stages attributes suffixes).provider? =
      (sources stages attributes suffixes').provider? := by
  funext name
  rw [provider?, provider?]
  have producers (s : Suffixes) : (sources stages attributes s).producers = producersOf stages := rfl
  have attributes_ (s : Suffixes) : (sources stages attributes s).attributes = attributes := rfl
  rw [producers, producers, attributes_, attributes_]
  cases owned : (producersOf stages).get? name with
  | none => rfl
  | some p =>
    have found : ((producersOf stages).get? name).isSome = true := by rw [owned]; rfl
    cases place : (sources stages attributes suffixes).stages[p]? with
    | none =>
      -- Both lists of stages are as long as that of the declared ones.
      have short : (sources stages attributes suffixes').stages[p]? = none := by
        rw [List.getElem?_eq_none_iff] at place ⊢
        rw [← (sources_renamed stages attributes suffixes').length_eq]
        rwa [← (sources_renamed stages attributes suffixes).length_eq] at place
      simp only [short, place]
      rfl
    | some after =>
      obtain ⟨before, declared, renamed⟩ :=
        exists_original (sources_renamed stages attributes suffixes) place
      obtain ⟨after', place', renamed'⟩ :=
        exists_renamed (sources_renamed stages attributes suffixes') declared
      have name_ : after.name = after'.name := by rw [renamed.frame, renamed'.frame]
      simp only [place, place', Option.bind_some, stageName_of_place place,
        stageName_of_place place', name_, outputSlot?_of_owned declared place renamed found,
        outputSlot?_of_owned declared place' renamed' found]

theorem Sources.stageErrors_suffixes (suffixes suffixes' : Suffixes) :
    (sources stages attributes suffixes).stageErrors =
      (sources stages attributes suffixes').stageErrors := by
  have inputErrors : (sources stages attributes suffixes).inputErrors =
      (sources stages attributes suffixes').inputErrors := by
    funext i stage slot
    rw [Sources.inputErrors, mismatch?, provider?_suffixes suffixes suffixes']
    rfl
  funext i stage
  rw [Sources.stageErrors, inputErrors]
  rfl

theorem Sources.errors_nil_suffixes {suffixes : Suffixes} (suffixes' : Suffixes)
    (none : (sources stages attributes suffixes).errors = []) :
    (sources stages attributes suffixes').errors = [] := by
  rw [List.eq_nil_iff_forall_not_mem] at none ⊢
  intro e member
  apply none e
  obtain ⟨i, stage, place, reported⟩ := mem_errors.mp member
  rw [stageErrors_suffixes suffixes' suffixes] at reported
  exact mem_errors.mpr ⟨i, stage, place, reported⟩

theorem cycleErrors_eq_nil_iff (suffixes : Suffixes) :
    let src := sources stages attributes suffixes
    let dependents := reversed src.predecessors
    cycleErrors src.stages dependents (Sorting.finish src.predecessors dependents) = [] ↔
      ¬ ∃ i, Relation.TransGen (Feeds stages) i i := by
  simp only
  rw [← length_order_lt_iff stages attributes suffixes, cycleErrors]
  split
  next cyclic => simp [cyclic]
  next acyclic => simp [acyclic]

/-- Whether stages are accepted does not depend on the supply of suffixes. -/
theorem exists_accepts_suffixes {suffixes : Suffixes} (suffixes' : Suffixes)
    (accepted : ∃ g : Graph, g.Accepts stages attributes suffixes) :
    ∃ g : Graph, g.Accepts stages attributes suffixes' := by
  rw [exists_accepts_iff, reported_eq] at accepted ⊢
  obtain ⟨defects, cycle⟩ := List.append_eq_nil_iff.mp accepted
  obtain ⟨declared, errors⟩ := List.append_eq_nil_iff.mp defects
  apply List.append_eq_nil_iff.mpr
  constructor
  · exact List.append_eq_nil_iff.mpr ⟨declared, Sources.errors_nil_suffixes suffixes' errors⟩
  · exact (cycleErrors_eq_nil_iff suffixes').mpr ((cycleErrors_eq_nil_iff suffixes).mp cycle)

end Graph

end Printworks
