import Mathlib.Data.List.Find
import Printworks.Proofs.Graph.Least
import Printworks.Proofs.Graph.Naming

/-!
# What is wrong with a set of stages

Building a graph reports a defect exactly if the stages have it as they are declared, whatever else
is wrong with them. So it succeeds exactly if they have none.
-/

namespace Printworks.Graph

/-! ### What stages declare -/

/-- The names of the stages that write a name with explicit outputs, in order, once for each such
output. -/
def writers (stages : List StageSpec) (name : String) : List String :=
  stages.flatMap (fun stage => List.replicate (stage.explicitNames.count name) stage.name)

/-- The first stage that writes a name with an explicit output. -/
def firstWriter? (stages : List StageSpec) (name : String) : Option Nat :=
  stages.findIdx? (fun stage => stage.explicitNames.contains name)

/-- The first explicit output that writes a name, with the name of its stage. -/
def firstOutput? (stages : List StageSpec) (name : String) : Option (String × Slot) := do
  let stage ← stages.find? (fun stage => stage.explicitNames.contains name)
  let slot ← stage.outputs.slots.find? (fun slot =>
    stage.isExplicit slot && stage.outputName slot.name == name)
  return (stage.name, slot)

/-- Where the value of a name comes from, and the slot that has its type. -/
def origin? (stages : List StageSpec) (attributes : Contract) (name : String) :
    Option (String × Slot) :=
  (firstOutput? stages name).or ((attributes.get? name).map ("attributes", ·))

/-- Whether an explicit output or an attribute has a name. -/
def IsProvided (stages : List StageSpec) (attributes : Contract) (name : String) : Prop :=
  (∃ stage ∈ stages, name ∈ stage.explicitNames) ∨ attributes.contains name = true

/-- The names that the members of a group of inputs read, but for internal ones. -/
def groupReads (stage : StageSpec) (group : String) : List String :=
  (stage.orderingInputs.filter (fun slot => slot.oneOf == some group)).map
    (fun slot => stage.inputName slot.name)

/-- Whether a stage reads a name whose first explicit output is one of a certain stage. -/
def Reads (stages : List StageSpec) (p i : Nat) : Prop :=
  ∃ stage, stages[i]? = some stage ∧
    ∃ slot ∈ stage.orderingInputs, firstWriter? stages (stage.inputName slot.name) = some p

/-- Whether there is an edge from one stage to another. -/
def Feeds (stages : List StageSpec) (p i : Nat) : Prop := p ≠ i ∧ Reads stages p i

/-- What can be wrong with a set of stages besides cycles, and the error that tells of it. -/
inductive Defect (stages : List StageSpec) (attributes : Contract) : GraphError → Prop
  | duplicateStage {name : String} (twice : 2 ≤ (stages.map (·.name)).count name) :
      Defect stages attributes (.duplicateStage name)
  | unknownInput {stage : StageSpec} {slot : String} (member : stage ∈ stages)
      (mapped : stage.inputMapping.contains slot = true)
      (undeclared : stage.inputs.contains slot = false) :
      Defect stages attributes (.unknownMapping stage.name slot)
  | unknownOutput {stage : StageSpec} {slot : String} (member : stage ∈ stages)
      (mapped : stage.outputMapping.contains slot = true)
      (undeclared : stage.outputs.contains slot = false) :
      Defect stages attributes (.unknownMapping stage.name slot)
  | ambiguousProducer {name : String} (several : 2 ≤ (writers stages name).length) :
      Defect stages attributes (.ambiguousProducer name (writers stages name))
  | shadowsAttribute {stage : StageSpec} {name : String} (member : stage ∈ stages)
      (explicit : name ∈ stage.explicitNames) (shadowed : attributes.contains name = true) :
      Defect stages attributes (.shadowsAttribute stage.name name)
  | unsatisfiableInput {stage : StageSpec} {slot : Slot} (member : stage ∈ stages)
      (declared : slot ∈ stage.inputs.slots) (required : slot.kind = .required)
      (alone : slot.oneOf = none)
      (missing : ¬ IsProvided stages attributes (stage.inputName slot.name)) :
      Defect stages attributes (.unsatisfiableInput stage.name (stage.inputName slot.name))
  | unsatisfiableGroup {stage : StageSpec} {group : String} (member : stage ∈ stages)
      (inhabited : groupReads stage group ≠ [])
      (missing : ∀ name ∈ groupReads stage group, ¬ IsProvided stages attributes name) :
      Defect stages attributes (.unsatisfiableGroup stage.name group (groupReads stage group))
  | typeMismatch {stage : StageSpec} {slot produced : Slot} {producer : String}
      (member : stage ∈ stages) (declared : slot ∈ stage.orderingInputs)
      (source : origin? stages attributes (stage.inputName slot.name) = some (producer, produced))
      (unfit : produced.type.satisfies slot.type = false) :
      Defect stages attributes
        (.typeMismatch (stage.inputName slot.name) producer stage.name produced.type slot.type)

/-- Whether a stage reads what it produces itself, or stages wait for each other. -/
def IsCyclic (stages : List StageSpec) : Prop :=
  (∃ i, Reads stages i i) ∨ ∃ i, Relation.TransGen (Feeds stages) i i

/-- The errors that building a graph reports. -/
def reported (stages : List StageSpec) (attributes : Contract) (suffixes : Suffixes) :
    List GraphError :=
  match build stages attributes suffixes with
  | .ok _ => []
  | .error errors => errors

variable {stages : List StageSpec} {attributes : Contract} {suffixes : Suffixes}

/-! ### Writers -/

theorem ownersOf_eq (stages : List StageSpec) (name : String) : ownersOf stages name =
    stages.zipIdx.flatMap (fun e => List.replicate (e.1.explicitNames.count name) e.2) := by
  rw [ownersOf, explicitWrites, List.filter_flatMap, List.map_flatMap]
  refine List.flatMap_congr (fun e _ => ?_)
  rw [List.count_eq_length_filter, List.filter_map, List.map_map]
  exact List.map_const'

theorem stageName_of_place {i : Nat} {stage : StageSpec} (place : stages[i]? = some stage) :
    stageName stages i = stage.name := by
  rw [stageName, place]
  rfl

theorem map_stageName_ownersOf (stages : List StageSpec) (name : String) :
    (ownersOf stages name).map (stageName stages) = writers stages name := by
  rw [ownersOf_eq, List.map_flatMap, writers]
  conv_rhs => rw [← List.zipIdx_map_fst 0 stages, List.flatMap_map]
  refine List.flatMap_congr (fun e member => ?_)
  rw [List.map_replicate, stageName_of_place (List.mem_zipIdx_iff_getElem?.mp member)]

theorem get?_producersOf_eq (stages : List StageSpec) (name : String) :
    (producersOf stages).get? name = firstWriter? stages name := by
  rw [get?_producersOf, ownersOf_eq, List.head?_flatMap, firstWriter?,
    List.findIdx?_eq_findSome?_zipIdx]
  congr 1
  funext e
  rw [List.head?_replicate]
  by_cases member : name ∈ e.1.explicitNames
  · simp [member, List.count_eq_zero]
  · simp [member, List.count_eq_zero]

theorem firstWriter?_isSome {name : String} : (firstWriter? stages name).isSome = true ↔
    ∃ stage ∈ stages, name ∈ stage.explicitNames := by
  simp [firstWriter?]

theorem mem_writers {name owner : String} : owner ∈ writers stages name ↔
    ∃ stage ∈ stages, name ∈ stage.explicitNames ∧ stage.name = owner := by
  simp only [writers, List.mem_flatMap, List.mem_replicate, ne_eq, List.count_eq_zero, not_not]
  refine exists_congr (fun stage => and_congr_right (fun _ => and_congr_right (fun _ => ?_)))
  exact eq_comm

/-! ### Names of stages, mappings and owners -/

theorem mem_repeated {seen names : List String} {name : String} :
    name ∈ repeated seen names ↔ (name ∈ seen ∧ name ∈ names) ∨ 2 ≤ names.count name := by
  induction names generalizing seen with
  | nil => simp [repeated]
  | cons first rest ih =>
    have once : 1 ≤ rest.count name ↔ name ∈ rest := List.count_pos_iff
    by_cases eq : first = name
    · subst eq
      rw [repeated, List.count_cons_self, show 2 ≤ rest.count first + 1 ↔ first ∈ rest by
        rw [← once]; omega]
      split
      next old => simp [old]
      next new =>
        rw [ih, ← once]
        simp only [new, List.mem_cons, true_or, true_and, false_and, false_or]
        omega
    -- Another name that comes first is remembered, which says nothing about this one.
    · have ne : ¬ name = first := fun same => eq same.symm
      rw [repeated, List.count_cons_of_ne eq]
      split
      next old => simp [ih, ne]
      next new => simp [ih, ne]

theorem mem_duplicateErrors {e : GraphError} : e ∈ duplicateErrors stages ↔
    ∃ name, 2 ≤ (stages.map (·.name)).count name ∧ e = .duplicateStage name := by
  simp only [duplicateErrors, List.mem_map, mem_repeated, List.not_mem_nil, false_and, false_or,
    eq_comm (a := e)]

theorem mem_unknownMappings {stage : StageSpec} {slot : String} : slot ∈ unknownMappings stage ↔
    stage.inputMapping.contains slot = true ∧ stage.inputs.contains slot = false ∨
      stage.outputMapping.contains slot = true ∧ stage.outputs.contains slot = false := by
  simp only [unknownMappings, List.mem_append, List.mem_filter, Dict.contains_iff_mem_keys,
    Bool.not_eq_true']

theorem mem_mappingErrors {e : GraphError} : e ∈ mappingErrors stages ↔
    ∃ stage ∈ stages, ∃ slot ∈ unknownMappings stage, e = .unknownMapping stage.name slot := by
  simp only [mappingErrors, List.mem_flatMap, List.mem_map, eq_comm (a := e)]

theorem mem_ownerErrors {name : String} {e : GraphError} :
    e ∈ ownerErrors stages attributes name (ownersOf stages name) ↔
      2 ≤ (writers stages name).length ∧ e = .ambiguousProducer name (writers stages name) ∨
        attributes.contains name = true ∧
          ∃ stage ∈ stages, name ∈ stage.explicitNames ∧ e = .shadowsAttribute stage.name name := by
  have length : (ownersOf stages name).length = (writers stages name).length := by
    rw [← map_stageName_ownersOf, List.length_map]
  rw [ownerErrors, map_stageName_ownersOf, length, List.mem_append]
  refine or_congr ?_ ?_
  · by_cases several : 1 < (writers stages name).length
    · rw [if_pos several, List.mem_singleton]
      exact ⟨fun eq => ⟨several, eq⟩, And.right⟩
    · rw [if_neg several]
      exact ⟨fun found => absurd found List.not_mem_nil, fun found => absurd found.1 several⟩
  · cases attributes.contains name with
    | false => simp
    | true =>
      rw [if_pos rfl, List.mem_map]
      constructor
      · rintro ⟨owner, writes, rfl⟩
        obtain ⟨stage, member, explicit, rfl⟩ := mem_writers.mp writes
        exact ⟨rfl, stage, member, explicit, rfl⟩
      · rintro ⟨-, stage, member, explicit, rfl⟩
        exact ⟨stage.name, mem_writers.mpr ⟨stage, member, explicit, rfl⟩, rfl⟩

theorem mem_producerErrors {e : GraphError} : e ∈ producerErrors stages attributes ↔
    ∃ name, e ∈ ownerErrors stages attributes name (ownersOf stages name) := by
  simp only [producerErrors, List.mem_flatMap, Prod.exists, Dict.mem_toList, get?_owners,
    Option.ite_none_left_eq_some, Option.some.injEq, and_assoc, exists_and_left, exists_eq_left']
  refine exists_congr (fun name => and_iff_right_of_imp ?_)
  -- A name without owners is not listed, but there is nothing wrong with it either.
  intro member none
  simp [none, ownerErrors] at member

/-! ### Inputs -/

theorem Sources.provides_iff (stages : List StageSpec) (attributes : Contract) (suffixes : Suffixes)
    {name : String} :
    (sources stages attributes suffixes).provides name = true ↔
      IsProvided stages attributes name := by
  rw [Sources.provides, Bool.or_eq_true, IsProvided, ← firstWriter?_isSome, ← get?_producersOf_eq]
  rfl

/-- Renamed stages are looked up at the places of the stages themselves. -/
theorem Sources.mem_errors {e : GraphError} :
    e ∈ (sources stages attributes suffixes).errors ↔ ∃ (i : Nat) (stage : StageSpec),
      stages[i]? = some stage ∧ e ∈ (sources stages attributes suffixes).stageErrors i stage := by
  have renamed := sources_renamed stages attributes suffixes
  -- Only names of outputs change, and nothing here looks at those of the stage itself.
  have same {before after : StageSpec} (h : before.IsRenamed after) (i : Nat) :
      (sources stages attributes suffixes).stageErrors i after =
        (sources stages attributes suffixes).stageErrors i before := by
    rw [h.frame]
    rfl
  simp only [errors, List.mem_flatMap, Prod.exists, List.mem_zipIdx_iff_getElem?]
  constructor
  · rintro ⟨after, i, place, member⟩
    obtain ⟨before, place', h⟩ := exists_original renamed place
    exact ⟨i, before, place', same h i ▸ member⟩
  · rintro ⟨i, before, place, member⟩
    obtain ⟨after, place', h⟩ := exists_renamed renamed place
    exact ⟨after, i, place', (same h i).symm ▸ member⟩

/-- The slot that is found for a name that has a producer is found among the stages as they were
declared: what has been given out is not owned. -/
theorem outputSlot?_of_owned {p : Nat} {before after : StageSpec}
    (place : stages[p]? = some before)
    (place' : (sources stages attributes suffixes).stages[p]? = some after)
    (renamed : before.IsRenamed after) {name : String}
    (owned : ((producersOf stages).get? name).isSome = true) :
    after.outputSlot? name = before.outputs.slots.find? (fun slot =>
      !before.unmappedInternals.contains slot.name && before.outputName slot.name == name) := by
  have outputs : after.outputs = before.outputs := by rw [renamed.frame]
  rw [StageSpec.outputSlot?, outputs]
  refine List.find?_congr (fun slot member => ?_)
  by_cases unmapped : slot.name ∈ before.unmappedInternals
  · have given := mem_givenNames place place' unmapped
    have free := (sources_given stages attributes suffixes).2 _ given
    rw [List.contains_iff_mem.mpr unmapped, Bool.not_true, Bool.false_and, beq_eq_false_iff_ne]
    rintro rfl
    rw [free.1] at owned
    cases owned
  · have kept : before.unmappedInternals.contains slot.name = false := by
      simpa using unmapped
    rw [renamed.kept slot.name unmapped, kept, Bool.not_false, Bool.true_and]

/-- If slots have different names, that is the first one that writes the name explicitly. -/
theorem outputSlot?_renamed {p : Nat} {before after : StageSpec} (place : stages[p]? = some before)
    (distinct : before.outputs.Distinct)
    (place' : (sources stages attributes suffixes).stages[p]? = some after)
    (renamed : before.IsRenamed after) {name : String}
    (owned : (firstWriter? stages name).isSome = true) :
    after.outputSlot? name = before.outputs.slots.find? (fun slot =>
      before.isExplicit slot && before.outputName slot.name == name) := by
  rw [← get?_producersOf_eq] at owned
  rw [outputSlot?_of_owned place place' renamed owned]
  refine List.find?_congr (fun slot member => ?_)
  congr 1
  cases explicit : before.isExplicit slot with
  | true => simpa using StageSpec.not_mem_unmappedInternals distinct member explicit
  | false =>
    have unmapped : slot.name ∈ before.unmappedInternals := by
      by_contra other
      rw [StageSpec.isExplicit_of_not_mem member other] at explicit
      cases explicit
    simpa using unmapped

theorem Sources.provider?_eq (distinct : ∀ stage ∈ stages, stage.outputs.Distinct) (name : String) :
    (sources stages attributes suffixes).provider? name = origin? stages attributes name := by
  have producer : (sources stages attributes suffixes).producers.get? name =
      firstWriter? stages name := get?_producersOf_eq stages name
  have finds : stages.find? (fun stage => stage.explicitNames.contains name) =
      (firstWriter? stages name).bind (fun p => stages[p]?) :=
    List.find?_eq_bind_findIdx?_getElem?
  rw [provider?, producer, origin?, firstOutput?, finds]
  cases first : firstWriter? stages name with
  | none => rfl
  | some p =>
    obtain ⟨lt, writes, -⟩ := List.findIdx?_eq_some_iff_getElem.mp first
    have place : stages[p]? = some stages[p] := List.getElem?_eq_getElem lt
    obtain ⟨after, place', renamed⟩ :=
      exists_renamed (sources_renamed stages attributes suffixes) place
    have named : stageName (sources stages attributes suffixes).stages p = stages[p].name := by
      rw [stageName_of_place place', renamed.frame]
    have distinct' := distinct stages[p] (List.getElem_mem lt)
    have slot := outputSlot?_renamed place distinct' place' renamed (by rw [first]; rfl)
    -- There is such a slot, so attributes are not asked.
    have found : (stages[p].outputs.slots.find? (fun slot =>
        stages[p].isExplicit slot && stages[p].outputName slot.name == name)).isSome := by
      obtain ⟨slot, member, explicit, same⟩ :=
        StageSpec.mem_explicitNames.mp (List.contains_iff_mem.mp writes)
      exact List.find?_isSome.mpr ⟨slot, member, by simp [explicit, same]⟩
    obtain ⟨produced, found⟩ := Option.isSome_iff_exists.mp found
    simp only [place, place', Option.bind_some, named, slot, found]
    simp [found]

theorem Sources.mem_inputErrors (distinct : ∀ stage ∈ stages, stage.outputs.Distinct) {i : Nat}
    {stage : StageSpec} {slot : Slot} {e : GraphError} :
    e ∈ (sources stages attributes suffixes).inputErrors i stage slot ↔
      (firstWriter? stages (stage.inputName slot.name) = some i ∧
        e = .cycle [stage.name, stage.name]) ∨
      (∃ producer produced,
        origin? stages attributes (stage.inputName slot.name) = some (producer, produced) ∧
          produced.type.satisfies slot.type = false ∧
          e = .typeMismatch (stage.inputName slot.name) producer stage.name produced.type
            slot.type) ∨
      (slot.isRequired = true ∧ ¬ IsProvided stages attributes (stage.inputName slot.name) ∧
        e = .unsatisfiableInput stage.name (stage.inputName slot.name)) := by
  rw [inputErrors, List.mem_append, List.mem_append, or_assoc]
  refine or_congr ?_ (or_congr ?_ ?_)
  · rw [selfCycle?, show (sources stages attributes suffixes).producers.get?
      (stage.inputName slot.name) = _ from get?_producersOf_eq _ _]
    split
    next own => simp [own]
    next other => simp [other]
  · rw [mismatch?, Sources.provider?_eq distinct]
    cases source : origin? stages attributes (stage.inputName slot.name) with
    | none => simp
    | some found =>
      obtain ⟨producer, produced⟩ := found
      cases fit : produced.type.satisfies slot.type with
      | true => simp [fit]
      | false => simp [fit]
  · rw [unsatisfied?, ← Sources.provides_iff stages attributes suffixes]
    cases slot.isRequired with
    | false => simp
    | true =>
      cases (sources stages attributes suffixes).provides (stage.inputName slot.name) with
      | false => simp
      | true => simp

theorem get?_groupNames (stage : StageSpec) (group : String) :
    (Sources.groupNames stage).get? group =
      if groupReads stage group = [] then none else some (groupReads stage group) := by
  exact Dict.get?_collect stage.orderingInputs (·.oneOf) (fun slot => stage.inputName slot.name) ∅
    group

theorem Sources.mem_groupErrors {stage : StageSpec} {e : GraphError} :
    e ∈ (sources stages attributes suffixes).groupErrors stage ↔
      ∃ group, groupReads stage group ≠ [] ∧
        (∀ name ∈ groupReads stage group, ¬ IsProvided stages attributes name) ∧
        e = .unsatisfiableGroup stage.name group (groupReads stage group) := by
  have unprovided (names : List String) :
      names.any (sources stages attributes suffixes).provides = false ↔
        ∀ name ∈ names, ¬ IsProvided stages attributes name := by
    rw [List.any_eq_false]
    refine forall₂_congr (fun name _ => ?_)
    rw [Sources.provides_iff]
  simp only [groupErrors, List.mem_filterMap, Prod.exists, Dict.mem_toList, get?_groupNames,
    Option.ite_none_left_eq_some, Option.some.injEq, and_assoc, exists_and_left, exists_eq_left',
    Bool.not_eq_true, unprovided, ne_eq, eq_comm (a := e)]

/-! ### Edges -/

/-- The edges of stages are those that their declarations give, renamed or not. -/
theorem mem_predecessors_sources {p i : Nat} :
    p ∈ (sources stages attributes suffixes).predecessors.getD i [] ↔ Feeds stages p i := by
  have renamed := sources_renamed stages attributes suffixes
  have producer (name : String) : (sources stages attributes suffixes).producers.get? name =
      firstWriter? stages name := get?_producersOf_eq stages name
  rw [Sources.getD_predecessors, Feeds, Reads]
  constructor
  · intro edge
    cases place : (sources stages attributes suffixes).stages[i]? with
    | none => simp [place] at edge
    | some after =>
      obtain ⟨before, place', h⟩ := exists_original renamed place
      simp only [place, Option.map_some, Option.getD_some, Sources.predecessorsOf,
        Sources.suppliers, List.mem_filter, Bool.and_eq_true, bne_iff_ne, List.contains_iff_mem,
        List.mem_filterMap, producer] at edge
      obtain ⟨-, ne, slot, member, first⟩ := edge
      rw [h.frame] at member first
      exact ⟨ne, before, place', slot, member, first⟩
  · rintro ⟨ne, before, place, slot, member, first⟩
    obtain ⟨after, place', h⟩ := exists_renamed renamed place
    have lt : p < (sources stages attributes suffixes).stages.length := by
      rw [← renamed.length_eq]
      exact (List.findIdx?_eq_some_iff_getElem.mp first).1
    simp only [place', Option.map_some, Option.getD_some, Sources.predecessorsOf,
      Sources.suppliers, List.mem_filter, List.mem_range, Bool.and_eq_true, bne_iff_ne,
      List.contains_iff_mem, List.mem_filterMap, producer]
    refine ⟨lt, ne, slot, ?_, ?_⟩
    · rw [h.frame]
      exact member
    · rw [h.frame]
      exact first

theorem length_order_lt_iff (stages : List StageSpec) (attributes : Contract)
    (suffixes : Suffixes) : (Sorting.finish (sources stages attributes suffixes).predecessors
        (reversed (sources stages attributes suffixes).predecessors)).order.length <
      (sources stages attributes suffixes).stages.length ↔
        ∃ i, Relation.TransGen (Feeds stages) i i := by
  have edges : (fun p i => p ∈ (sources stages attributes suffixes).predecessors.getD i []) =
      Feeds stages := by
    funext p i
    exact propext mem_predecessors_sources
  rw [← Sources.length_predecessors,
    Sorting.length_finish_lt_iff (Sources.mutual_predecessors _), IsAcyclic, edges, not_forall_not]

/-! ### All errors -/

theorem reported_eq (stages : List StageSpec) (attributes : Contract) (suffixes : Suffixes) :
    reported stages attributes suffixes =
      let src := sources stages attributes suffixes
      let dependents := reversed src.predecessors
      duplicateErrors stages ++ mappingErrors stages ++ producerErrors stages attributes ++
        src.errors ++
        cycleErrors src.stages dependents (Sorting.finish src.predecessors dependents) := by
  simp only [reported, build]
  split
  next ok =>
    split at ok
    next none => exact (List.isEmpty_iff.mp none).symm
    next => cases ok
  next error =>
    split at error
    next => cases error
    next => exact (Except.error.inj error).symm

theorem exists_accepts_iff : (∃ g : Graph, g.Accepts stages attributes suffixes) ↔
    reported stages attributes suffixes = [] := by
  cases built : build stages attributes suffixes with
  | ok result =>
    obtain ⟨g, rest⟩ := result
    rw [reported, built]
    exact ⟨fun _ => rfl, fun _ => ⟨g, rest, built⟩⟩
  | error errors =>
    -- There are no errors without any in them.
    have some_ : errors ≠ [] := by
      simp only [build] at built
      split at built
      next => cases built
      next some_ =>
        cases built
        simpa using some_
    rw [reported, built]
    constructor
    · rintro ⟨g, rest, ok⟩
      rw [built] at ok
      cases ok
    · exact fun none => absurd none some_

theorem isRequired_iff {slot : Slot} :
    slot.isRequired = true ↔ slot.kind = .required ∧ slot.oneOf = none := by
  simp [Slot.isRequired]

theorem mem_orderingInputs {stage : StageSpec} {slot : Slot} :
    slot ∈ stage.orderingInputs ↔ slot ∈ stage.inputs.slots ∧ slot.isInternal = false := by
  simp [StageSpec.orderingInputs]

/-- Whatever is reported is a defect, or it is a cycle and there is one. -/
theorem reported_cases (distinct : ∀ stage ∈ stages, stage.outputs.Distinct) {e : GraphError}
    (member : e ∈ reported stages attributes suffixes) :
    Defect stages attributes e ∨ (∃ path, e = .cycle path) ∧ IsCyclic stages := by
  rw [reported_eq] at member
  simp only [List.mem_append, or_assoc] at member
  -- The passes one after the other.
  rcases member with duplicate | mapping | producer | input | cycle
  · obtain ⟨name, twice, rfl⟩ := mem_duplicateErrors.mp duplicate
    exact .inl (.duplicateStage twice)
  · obtain ⟨stage, declared, slot, unknown, rfl⟩ := mem_mappingErrors.mp mapping
    rcases mem_unknownMappings.mp unknown with ⟨mapped, undeclared⟩ | ⟨mapped, undeclared⟩
    · exact .inl (.unknownInput declared mapped undeclared)
    · exact .inl (.unknownOutput declared mapped undeclared)
  · obtain ⟨name, member⟩ := mem_producerErrors.mp producer
    rcases mem_ownerErrors.mp member with
      ⟨several, rfl⟩ | ⟨shadowed, stage, declared, explicit, rfl⟩
    · exact .inl (.ambiguousProducer several)
    · exact .inl (.shadowsAttribute declared explicit shadowed)
  · obtain ⟨i, stage, place, member⟩ := Sources.mem_errors.mp input
    have declared : stage ∈ stages := List.mem_of_getElem? place
    rcases List.mem_append.mp member with single | group
    · obtain ⟨slot, reads, member⟩ := List.mem_flatMap.mp single
      rcases (Sources.mem_inputErrors distinct).mp member with
        ⟨own, rfl⟩ | ⟨producer, produced, source, unfit, rfl⟩ | ⟨required, missing, rfl⟩
      · exact .inr ⟨⟨_, rfl⟩, .inl ⟨i, stage, place, slot, reads, own⟩⟩
      · exact .inl (.typeMismatch declared reads source unfit)
      · obtain ⟨kind, alone⟩ := isRequired_iff.mp required
        have inside := (mem_orderingInputs.mp reads).1
        exact .inl (.unsatisfiableInput declared inside kind alone missing)
    · obtain ⟨group, inhabited, missing, rfl⟩ := Sources.mem_groupErrors.mp group
      exact .inl (.unsatisfiableGroup declared inhabited missing)
  · rw [cycleErrors] at cycle
    split at cycle
    next left =>
      have around := (length_order_lt_iff stages attributes suffixes).mp left
      exact .inr ⟨⟨_, List.mem_singleton.mp cycle⟩, .inr around⟩
    next => cases cycle

theorem mem_reported_of_defect (suffixes : Suffixes)
    (distinct : ∀ stage ∈ stages, stage.outputs.Distinct) {e : GraphError}
    (defect : Defect stages attributes e) : e ∈ reported stages attributes suffixes := by
  -- At which place a stage stands matters for cycles only.
  have ofInputs {stage : StageSpec} (declared : stage ∈ stages)
      (found : ∀ i, e ∈ (sources stages attributes suffixes).stageErrors i stage) :
      e ∈ (sources stages attributes suffixes).errors := by
    obtain ⟨i, place⟩ := List.mem_iff_getElem?.mp declared
    exact Sources.mem_errors.mpr ⟨i, stage, place, found i⟩
  rw [reported_eq]
  simp only [List.mem_append, or_assoc]
  cases defect with
  | duplicateStage twice => exact .inl (mem_duplicateErrors.mpr ⟨_, twice, rfl⟩)
  | unknownInput declared mapped undeclared =>
    have unknown := mem_unknownMappings.mpr (.inl ⟨mapped, undeclared⟩)
    exact .inr (.inl (mem_mappingErrors.mpr ⟨_, declared, _, unknown, rfl⟩))
  | unknownOutput declared mapped undeclared =>
    have unknown := mem_unknownMappings.mpr (.inr ⟨mapped, undeclared⟩)
    exact .inr (.inl (mem_mappingErrors.mpr ⟨_, declared, _, unknown, rfl⟩))
  | @ambiguousProducer name several =>
    refine .inr (.inr (.inl (mem_producerErrors.mpr ⟨name, ?_⟩)))
    exact mem_ownerErrors.mpr (.inl ⟨several, rfl⟩)
  | @shadowsAttribute stage name declared explicit shadowed =>
    refine .inr (.inr (.inl (mem_producerErrors.mpr ⟨name, ?_⟩)))
    exact mem_ownerErrors.mpr (.inr ⟨shadowed, _, declared, explicit, rfl⟩)
  | unsatisfiableInput declared inside kind alone missing =>
    refine .inr (.inr (.inr (.inl (ofInputs declared (fun i => ?_)))))
    have reads := mem_orderingInputs.mpr ⟨inside, by simp [Slot.isInternal, kind]⟩
    refine List.mem_append_left _ (List.mem_flatMap.mpr ⟨_, reads, ?_⟩)
    apply (Sources.mem_inputErrors distinct).mpr
    exact .inr (.inr ⟨isRequired_iff.mpr ⟨kind, alone⟩, missing, rfl⟩)
  | unsatisfiableGroup declared inhabited missing =>
    refine .inr (.inr (.inr (.inl (ofInputs declared (fun i => ?_)))))
    exact List.mem_append_right _ (Sources.mem_groupErrors.mpr ⟨_, inhabited, missing, rfl⟩)
  | typeMismatch declared reads source unfit =>
    refine .inr (.inr (.inr (.inl (ofInputs declared (fun i => ?_)))))
    refine List.mem_append_left _ (List.mem_flatMap.mpr ⟨_, reads, ?_⟩)
    apply (Sources.mem_inputErrors distinct).mpr
    exact .inr (.inl ⟨_, _, source, unfit, rfl⟩)

theorem cycle_mem_reported_iff (attributes : Contract) (suffixes : Suffixes)
    (distinct : ∀ stage ∈ stages, stage.outputs.Distinct) :
    (∃ path, .cycle path ∈ reported stages attributes suffixes) ↔ IsCyclic stages := by
  constructor
  · rintro ⟨path, member⟩
    rcases reported_cases distinct member with defect | ⟨-, cyclic⟩
    · cases defect
    · exact cyclic
  · rw [reported_eq]
    simp only [List.mem_append, or_assoc]
    rintro (⟨i, stage, place, slot, reads, own⟩ | around)
    · refine ⟨[stage.name, stage.name], .inr (.inr (.inr (.inl ?_)))⟩
      refine Sources.mem_errors.mpr ⟨i, stage, place, ?_⟩
      refine List.mem_append_left _ (List.mem_flatMap.mpr ⟨slot, reads, ?_⟩)
      exact (Sources.mem_inputErrors distinct).mpr (.inl ⟨own, rfl⟩)
    · have left := (length_order_lt_iff stages attributes suffixes).mpr around
      simp only [cycleErrors, if_pos left, List.mem_singleton]
      exact ⟨_, .inr (.inr (.inr (.inr rfl)))⟩

/-- Building reports exactly the defects that stages have as they are declared, and a cycle exactly
if a stage reads what it is the first to write or if edges come back to where they began. It
succeeds exactly if there is none of this. -/
theorem reported_iff_defect (stages : List StageSpec) (attributes : Contract) (suffixes : Suffixes)
    (distinct : ∀ stage ∈ stages, stage.inputs.Distinct ∧ stage.outputs.Distinct) :
    (∀ e : GraphError, (∀ path, e ≠ .cycle path) →
      (e ∈ reported stages attributes suffixes ↔ Defect stages attributes e)) ∧
    ((∃ path, .cycle path ∈ reported stages attributes suffixes) ↔ IsCyclic stages) ∧
    ((∃ g : Graph, g.Accepts stages attributes suffixes) ↔
      (∀ e, ¬ Defect stages attributes e) ∧ ¬ IsCyclic stages) := by
  have outputs : ∀ stage ∈ stages, stage.outputs.Distinct :=
    fun stage member => (distinct stage member).2
  have cycles := cycle_mem_reported_iff attributes suffixes outputs
  refine ⟨fun e other => ⟨fun member => ?_, mem_reported_of_defect suffixes outputs⟩, cycles, ?_⟩
  · rcases reported_cases outputs member with defect | ⟨⟨path, eq⟩, -⟩
    · exact defect
    · exact absurd eq (other path)
  · rw [exists_accepts_iff]
    constructor
    · intro none
      constructor
      · intro e defect
        have member := mem_reported_of_defect suffixes outputs defect
        rw [none] at member
        cases member
      · rw [← cycles, none]
        simp
    · rintro ⟨sound, acyclic⟩
      apply List.eq_nil_iff_forall_not_mem.mpr
      intro e member
      rcases reported_cases outputs member with defect | ⟨-, cyclic⟩
      · exact sound e defect
      · exact acyclic cyclic

theorem reported_iff_defect_pair :
    (∀ stage ∈ pairStages, stage.inputs.Distinct ∧ stage.outputs.Distinct) ∧
      (∀ e, ¬ Defect pairStages pairAttributes e) ∧ ¬ IsCyclic pairStages := by
  have distinct : ∀ stage ∈ pairStages, stage.inputs.Distinct ∧ stage.outputs.Distinct := by decide
  exact ⟨distinct, (reported_iff_defect pairStages pairAttributes .numbered distinct).2.2.mp
    ⟨pair, pair_accepted⟩⟩

/-- A stage that reads a name which it writes itself, while another stage has written it first. -/
def rivalStages : List StageSpec :=
  [⟨"draw", .ofSlots [], .ofSlots [.plain "sheet" .any .required], ∅, ∅⟩,
    step "trim" "sheet" "sheet"]

/-- Reading an output of its own does not make a stage wait for itself if another stage is taken for
the producer. -/
theorem own_output_without_cycle :
    (∀ stage ∈ rivalStages, stage.inputs.Distinct ∧ stage.outputs.Distinct) ∧
      (∃ stage ∈ rivalStages, ∃ input ∈ stage.orderingInputs, ∃ output ∈ stage.outputs.slots,
        stage.isExplicit output = true ∧
          stage.outputName output.name = stage.inputName input.name) ∧
      ∀ path, .cycle path ∉ reported rivalStages ∅ .numbered := by
  refine ⟨by decide, by decide, fun path member => ?_⟩
  have only : reported rivalStages ∅ .numbered =
      [.ambiguousProducer "sheet" ["draw", "trim"]] := rfl
  rw [only, List.mem_singleton] at member
  cases member

end Printworks.Graph
