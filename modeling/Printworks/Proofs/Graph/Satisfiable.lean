import Printworks.Proofs.Graph.Defects
import Printworks.Proofs.Stage.Delivery

/-!
# What is left to complain of at run time

Suppose that there is a value, and no null, for exactly those names that have a producer or are
attributes. Then a stage of an accepted graph misses none of the values that it requires by
themselves, and some member of each group is there unless the group is internal as a whole. Whether
more than one member is there and whether a slot comes with those that it requires is not looked at
before the stage reads its inputs.
-/

namespace Printworks.Graph

/-- Whether there are values for exactly those names that have a producer or are attributes. -/
def IsFull (g : Graph) (values : Dict Value) : Prop :=
  ∀ name, (∃ v, values.get? name = some v ∧ v.isNull = false) ↔ g.provides name = true

variable {stages : List StageSpec} {attributes : Contract} {suffixes : Suffixes} {g : Graph}
  {i : Nat} {spec : StageSpec}

/-! ### What building has checked -/

theorem Checked.provides_eq (checked : Checked stages attributes g) (name : String) :
    (Sources.mk g.stages attributes (producersOf stages)).provides name = g.provides name := by
  rw [Sources.provides, provides, producer?, checked.producers, checked.sameAttributes]
  rfl

theorem Checked.provides_of_required (checked : Checked stages attributes g)
    (place : g.stages[i]? = some spec) {slot : Slot} (member : slot ∈ spec.inputs.slots)
    (required : slot.isRequired = true) : g.provides (spec.inputName slot.name) = true := by
  have kind := (isRequired_iff.mp required).1
  have reads : slot ∈ spec.orderingInputs :=
    mem_orderingInputs.mpr ⟨member, by simp [Slot.isInternal, kind]⟩
  -- Building would have complained of the slot.
  have none := checked.inputErrors_eq_nil place reads
  simp only [Sources.inputErrors, List.append_eq_nil_iff, Sources.unsatisfied?,
    checked.provides_eq, required] at none
  by_contra missing
  simp [missing] at none

theorem Checked.exists_provided_of_group (checked : Checked stages attributes g)
    (place : g.stages[i]? = some spec) {slot : Slot} (reads : slot ∈ spec.orderingInputs)
    {group : String} (inside : slot.oneOf = some group) :
    ∃ s ∈ spec.inputs.slots, s.oneOf = some group ∧
      g.provides (spec.inputName s.name) = true := by
  have all := checked.noInputError
  rw [Sources.errors, List.flatMap_eq_nil_iff] at all
  have stage := all (spec, i) (List.mem_zipIdx_iff_getElem?.mpr place)
  simp only [Sources.stageErrors, List.append_eq_nil_iff, Sources.groupErrors,
    List.filterMap_eq_nil_iff] at stage
  -- The group is looked at, since the slot is a member that is for more than diagnosis.
  have inhabited : groupReads spec group ≠ [] := by
    have member : spec.inputName slot.name ∈ groupReads spec group :=
      List.mem_map_of_mem (List.mem_filter.mpr ⟨reads, by simp [inside]⟩)
    exact List.ne_nil_of_mem member
  have listed : (group, groupReads spec group) ∈ (Sources.groupNames spec).toList :=
    Dict.mem_toList.mpr (by rw [get?_groupNames, if_neg inhabited])
  have one := stage.2 _ listed
  have any : (groupReads spec group).any
      (Sources.mk g.stages attributes (producersOf stages)).provides = true := by
    by_contra none
    simp [none] at one
  obtain ⟨name, member, provided⟩ := List.any_eq_true.mp any
  obtain ⟨s, there, rfl⟩ := List.mem_map.mp member
  obtain ⟨ordering, same⟩ := List.mem_filter.mp there
  rw [checked.provides_eq] at provided
  exact ⟨s, (mem_orderingInputs.mp ordering).1, by simpa using same, provided⟩

/-! ### What binding finds -/

section

variable {values : Dict Value}

theorem IsFull.contains_supplied (full : g.IsFull values) (spec : StageSpec) (slot : String) :
    (spec.inputs.typedSupply (spec.readInputs values)).contains slot = true ↔
      slot ∈ spec.inputs.names ∧ g.provides (spec.inputName slot) = true := by
  rw [StageSpec.contains_supplied, full]

theorem IsFull.supplied_members (full : g.IsFull values) (spec : StageSpec) (group : String) :
    (spec.inputs.groupMembers group).filter
        (spec.inputs.typedSupply (spec.readInputs values)).contains =
      (spec.inputs.groupMembers group).filter (fun slot => g.provides (spec.inputName slot)) := by
  refine List.filter_congr (fun slot member => ?_)
  obtain ⟨s, inside, rfl⟩ := List.mem_map.mp member
  have declared : s.name ∈ spec.inputs.names := List.mem_map_of_mem (List.mem_filter.mp inside).1
  rw [Bool.eq_iff_iff, full.contains_supplied]
  exact ⟨And.right, fun provided => ⟨declared, provided⟩⟩

theorem IsFull.missingRequired_not_mem (full : g.IsFull values)
    (checked : Checked stages attributes g) (place : g.stages[i]? = some spec) (name : String) :
    .missingRequired name ∉ (spec.inputs.bindValues (spec.readInputs values)).violations := by
  rw [Contract.missingRequired_mem]
  rintro ⟨slot, member, required, absent, -⟩
  have provided := checked.provides_of_required place member required
  have there := (full.contains_supplied spec slot.name).mpr ⟨List.mem_map_of_mem member, provided⟩
  rw [there] at absent
  cases absent

/-- A group none of whose members is there has internal members only. -/
theorem IsFull.isInternal_of_noneOfGroup (full : g.IsFull values)
    (checked : Checked stages attributes g) (place : g.stages[i]? = some spec) {group : String}
    {members : List String} (none : .noneOfGroup group members ∈
      (spec.inputs.bindValues (spec.readInputs values)).violations)
    {slot : Slot} (member : slot ∈ spec.inputs.slots) (inside : slot.oneOf = some group) :
    slot.isInternal = true := by
  obtain ⟨-, empty, -⟩ := Contract.noneOfGroup_mem.mp none
  rw [full.supplied_members, List.filter_eq_nil_iff] at empty
  -- Otherwise building would have found a member that something provides.
  by_contra external
  have reads := mem_orderingInputs.mpr ⟨member, by simpa using external⟩
  obtain ⟨s, there, same, provided⟩ := checked.exists_provided_of_group place reads inside
  have listed : s.name ∈ spec.inputs.groupMembers group :=
    List.mem_map_of_mem (List.mem_filter.mpr ⟨there, by simp [same]⟩)
  exact empty s.name listed provided

theorem IsFull.manyOfGroup_iff (full : g.IsFull values) {group : String} {present : List String} :
    .manyOfGroup group present ∈ (spec.inputs.bindValues (spec.readInputs values)).violations ↔
      2 ≤ present.length ∧ present =
        (spec.inputs.groupMembers group).filter (fun slot => g.provides (spec.inputName slot)) := by
  rw [Contract.manyOfGroup_mem, full.supplied_members]
  constructor
  · rintro ⟨-, many, rfl⟩
    exact ⟨many, rfl⟩
  · rintro ⟨many, rfl⟩
    refine ⟨?_, many, rfl⟩
    intro empty
    rw [empty] at many
    simp at many

/-- A name that a slot requires is left open unless it is supplied or something makes up for it. -/
theorem IsFull.leavesOpen_iff (full : g.IsFull values) (spec : StageSpec) {name : String} :
    spec.inputs.leavesOpen (spec.inputs.typedSupply (spec.readInputs values)) name = true ↔
      ¬ (name ∈ spec.inputs.names ∧ g.provides (spec.inputName name) = true) ∧
        ∀ slot, spec.inputs.get? name = some slot →
          slot.isRequired = false ∧ slot.default? = none := by
  rw [Contract.leavesOpen, Bool.and_eq_true, ← full.contains_supplied, Bool.not_eq_true',
    Bool.not_eq_true]
  refine and_congr_right (fun _ => ?_)
  cases spec.inputs.get? name with
  | none => simp
  | some slot => simp

theorem IsFull.missingRequiredBy_iff (full : g.IsFull values) {name trigger : String} :
    .missingRequiredBy name trigger ∈
        (spec.inputs.bindValues (spec.readInputs values)).violations ↔
      (∃ slot ∈ spec.inputs.slots, slot.name = trigger ∧ name ∈ slot.requires) ∧
        g.provides (spec.inputName trigger) = true ∧
        ¬ (name ∈ spec.inputs.names ∧ g.provides (spec.inputName name) = true) ∧
        ∀ slot, spec.inputs.get? name = some slot →
          slot.isRequired = false ∧ slot.default? = none := by
  rw [Contract.missingRequiredBy_mem, ← full.leavesOpen_iff]
  constructor
  · rintro ⟨slot, member, there, requires, leavesOpen, rfl⟩
    have provided := ((full.contains_supplied spec slot.name).mp there).2
    exact ⟨⟨slot, member, rfl, requires⟩, provided, leavesOpen⟩
  · rintro ⟨⟨slot, member, rfl, requires⟩, provided, leavesOpen⟩
    have there := (full.contains_supplied spec slot.name).mpr ⟨List.mem_map_of_mem member, provided⟩
    exact ⟨slot, member, there, requires, leavesOpen, rfl⟩

end

/-- A stage of an accepted graph that reads its inputs when all values are there finds no value
missing that it requires by itself, and some member of each group that is not internal as a whole.
A group is reported to have many members exactly if several of them read what is provided, and a
slot is reported to be required by another exactly if that one is there and nothing makes up for
the slot. -/
theorem bind_presence (accepted : g.Accepts stages attributes suffixes)
    (place : g.stages[i]? = some spec) {values : Dict Value} (full : g.IsFull values) :
    let violations := (spec.inputs.bindValues (spec.readInputs values)).violations
    let isThere slot := g.provides (spec.inputName slot)
    (∀ slot, .missingRequired slot ∉ violations) ∧
    (∀ group members, .noneOfGroup group members ∈ violations →
      ∀ slot ∈ spec.inputs.slots, slot.oneOf = some group → slot.isInternal = true) ∧
    (∀ group present, .manyOfGroup group present ∈ violations ↔
      2 ≤ present.length ∧ present = (spec.inputs.groupMembers group).filter isThere) ∧
    (∀ name trigger, .missingRequiredBy name trigger ∈ violations ↔
      (∃ slot ∈ spec.inputs.slots, slot.name = trigger ∧ name ∈ slot.requires) ∧
        isThere trigger = true ∧ ¬ (name ∈ spec.inputs.names ∧ isThere name = true) ∧
        ∀ slot, spec.inputs.get? name = some slot →
          slot.isRequired = false ∧ slot.default? = none) := by
  intro violations isThere
  have checked := accepted.checked
  refine ⟨full.missingRequired_not_mem checked place, ?_, ?_, ?_⟩
  · intro group members none slot member inside
    exact full.isInternal_of_noneOfGroup checked place none member inside
  · exact fun group present => full.manyOfGroup_iff
  · exact fun name trigger => full.missingRequiredBy_iff

/-- A stage that takes the extent of a map either as a box or as a centre that comes with a zoom,
and that has a group of internal values to itself. -/
def extentStage : StageSpec :=
  ⟨"map", .ofSlots [⟨"bbox", .any, .required, [], some "extent"⟩,
    ⟨"center", .any, .required, ["zoom"], some "extent"⟩,
    ⟨"trace", .any, .internal, [], some "notes"⟩], .ofSlots [], ∅, ∅⟩

def extentAttributes : Contract :=
  .ofSlots [.plain "bbox" .any .required, .plain "center" .any .required]

def extent : Graph := ⟨[extentStage], extentAttributes, [[]], [[]], ∅, [0]⟩

/-- A value for each attribute. -/
def extentValues : Dict Value := .ofList [("bbox", .bool true), ("center", .bool true)]

theorem extent_accepted : extent.Accepts [extentStage] extentAttributes .numbered := ⟨_, rfl⟩

theorem extent_isFull : extent.IsFull extentValues := by
  intro name
  have keys : extent.attributes.names = ["bbox", "center"] := rfl
  have found : extentValues.get? name =
      Entries.find? [("bbox", .bool true), ("center", .bool true)] name := rfl
  have none : extent.producer? name = none := rfl
  rw [provides, none, Option.isSome_none, Bool.false_or, Contract.contains_iff, keys, found]
  by_cases box : "bbox" = name
  · subst box
    simp [Entries.find?, Value.isNull]
  · by_cases centre : "center" = name
    · subst centre
      simp [Entries.find?, Value.isNull]
    · have box' : ¬ name = "bbox" := fun same => box same.symm
      have centre' : ¬ name = "center" := fun same => centre same.symm
      simp [Entries.find?, box, centre, box', centre']

theorem bind_presence_extent :
    extent.Accepts [extentStage] extentAttributes .numbered ∧
      extent.stages[0]? = some extentStage ∧ extent.IsFull extentValues ∧
      ∀ slot, .missingRequired slot ∉
        (extentStage.inputs.bindValues (extentStage.readInputs extentValues)).violations := by
  have place : extent.stages[0]? = some extentStage := rfl
  have presence := bind_presence extent_accepted place extent_isFull
  exact ⟨extent_accepted, place, extent_isFull, presence.1⟩

/-- A set of stages may be accepted although all that a stage can read is more than a group takes,
lacks what comes with one of its members, and has nothing for a group that is internal. -/
theorem many_of_accepted_group :
    extent.Accepts [extentStage] extentAttributes .numbered ∧
      extent.stages[0]? = some extentStage ∧ extent.IsFull extentValues ∧
      (extentStage.inputs.bindValues (extentStage.readInputs extentValues)).violations =
        [.missingRequiredBy "zoom" "center", .manyOfGroup "extent" ["bbox", "center"],
          .noneOfGroup "notes" ["trace"]] :=
  ⟨extent_accepted, rfl, extent_isFull, by decide⟩

end Printworks.Graph
