import Printworks.Proofs.Dict
import Printworks.Proofs.Graph.Build

/-!
# Who owns which name

In an accepted set of stages no name is written by two explicit outputs, and none that is an
attribute. So a name has one owner or none, and a stage that reads the name of another one waits for
its owner.
-/

namespace Printworks

/-- Whether everything that a stage reads and writes is for more than diagnosis. -/
structure StageSpec.IsPlain (spec : StageSpec) : Prop where
  inputs : ∀ slot ∈ spec.inputs.slots, slot.isInternal = false
  outputs : ∀ slot ∈ spec.outputs.slots, slot.isInternal = false

instance (spec : StageSpec) : Decidable spec.IsPlain :=
  decidable_of_iff ((∀ slot ∈ spec.inputs.slots, slot.isInternal = false) ∧
    ∀ slot ∈ spec.outputs.slots, slot.isInternal = false)
    ⟨fun both => ⟨both.1, both.2⟩, fun plain => ⟨plain.inputs, plain.outputs⟩⟩

/-- A plain stage waits for the producers of all names that it reads. -/
theorem StageSpec.IsPlain.orderingInputs {spec : StageSpec} (plain : spec.IsPlain) :
    spec.orderingInputs = spec.inputs.slots :=
  List.filter_eq_self.mpr (fun slot member => by simp [plain.inputs slot member])

/-- A plain stage owns every name that it writes. -/
theorem StageSpec.IsPlain.explicitNames {spec : StageSpec} (plain : spec.IsPlain) :
    spec.explicitNames = spec.outputs.slots.map (fun slot => spec.outputName slot.name) := by
  rw [StageSpec.explicitNames, List.filter_eq_self.mpr]
  intro slot member
  simp [StageSpec.isExplicit, plain.outputs slot member]

namespace Graph

variable {stages : List StageSpec} {attributes : Contract} {g : Graph}

/-! ### Owners -/

/-- The stages that own a name, once for each slot that writes it. -/
def ownersOf (stages : List StageSpec) (name : String) : List Nat :=
  ((explicitWrites stages).filter (fun e => e.1 == name)).map (·.2)

theorem get?_owners (stages : List StageSpec) (name : String) :
    (owners stages).get? name =
      if ownersOf stages name = [] then none else some (ownersOf stages name) := by
  have found := Dict.get?_collect (explicitWrites stages) (fun e => some e.1) (·.2) ∅ name
  simp only [Option.some_beq_some] at found
  exact found

theorem get?_producersOf (stages : List StageSpec) (name : String) :
    (producersOf stages).get? name = (ownersOf stages name).head? := by
  rw [producersOf, Dict.get?_map, get?_owners]
  cases ownersOf stages name <;> simp

theorem mem_explicitWrites {name : String} {i : Nat} : (name, i) ∈ explicitWrites stages ↔
    ∃ spec, stages[i]? = some spec ∧ name ∈ spec.explicitNames := by
  simp only [explicitWrites, List.mem_flatMap, List.mem_map, Prod.mk.injEq]
  constructor
  · rintro ⟨⟨spec, j⟩, place, n, member, rfl, rfl⟩
    exact ⟨spec, List.mem_zipIdx_iff_getElem?.mp place, member⟩
  · rintro ⟨spec, place, member⟩
    exact ⟨(spec, i), List.mem_zipIdx_iff_getElem?.mpr place, name, member, rfl, rfl⟩

theorem mem_ownersOf {name : String} {i : Nat} : i ∈ ownersOf stages name ↔
    ∃ spec, stages[i]? = some spec ∧ name ∈ spec.explicitNames := by
  rw [← mem_explicitWrites]
  simp [ownersOf]

/-- A stage that is the producer of a name writes it with an explicit output. -/
theorem mem_explicitNames_of_producer {name : String} {i : Nat}
    (producer : (producersOf stages).get? name = some i) :
    ∃ spec, stages[i]? = some spec ∧ name ∈ spec.explicitNames := by
  rw [get?_producersOf] at producer
  exact mem_ownersOf.mp (List.mem_of_mem_head? producer)

namespace Checked

/-- Nothing is wrong with the owners of any name. -/
theorem ownerErrors_eq_nil (checked : Checked stages attributes g) (name : String)
    (some_ : ownersOf stages name ≠ []) :
    ownerErrors stages attributes name (ownersOf stages name) = [] := by
  have all := checked.noProducerError
  rw [producerErrors, List.flatMap_eq_nil_iff] at all
  exact all (name, ownersOf stages name) (Dict.mem_toList.mpr (by rw [get?_owners, if_neg some_]))

/-- A name is written by one explicit output at most. -/
theorem length_ownersOf_le (checked : Checked stages attributes g) (name : String) :
    (ownersOf stages name).length ≤ 1 := by
  by_contra more
  have some_ : ownersOf stages name ≠ [] := by
    intro none
    simp [none] at more
  have errors := checked.ownerErrors_eq_nil name some_
  rw [ownerErrors, List.append_eq_nil_iff, if_pos (Nat.lt_of_not_le more)] at errors
  cases errors.1

/-- An explicit output makes its stage the producer of the name that it writes. -/
theorem producer_of_mem (checked : Checked stages attributes g) {name : String} {i : Nat}
    {spec : StageSpec} (place : stages[i]? = some spec) (member : name ∈ spec.explicitNames) :
    (producersOf stages).get? name = some i := by
  -- The stage is among the owners of the name, and there is only one.
  have owner : i ∈ ownersOf stages name := mem_ownersOf.mpr ⟨spec, place, member⟩
  have one := checked.length_ownersOf_le name
  obtain ⟨j, rest, owners_⟩ := List.exists_cons_of_ne_nil (List.ne_nil_of_mem owner)
  rw [owners_, List.length_cons] at one
  have alone : rest = [] := List.length_eq_zero_iff.mp (by omega)
  rw [owners_, alone, List.mem_singleton] at owner
  rw [get?_producersOf, owners_, owner]
  rfl

/-- The explicit outputs of a stage write different names. -/
theorem explicitNames_nodup (checked : Checked stages attributes g) {i : Nat} {spec : StageSpec}
    (place : stages[i]? = some spec) : spec.explicitNames.Nodup := by
  rw [List.nodup_iff_count_le_one]
  intro name
  refine le_trans ?_ (checked.length_ownersOf_le name)
  -- Each of them is listed among the owners.
  have listed : (spec.explicitNames.map (fun name => (name, i))).Sublist (explicitWrites stages) := by
    have inside := List.sublist_flatten_of_mem (List.mem_map_of_mem
      (f := fun e : StageSpec × Nat => e.1.explicitNames.map (fun name => (name, e.2)))
      (List.mem_zipIdx_iff_getElem?.mpr place : (spec, i) ∈ stages.zipIdx))
    rwa [← List.flatMap_def] at inside
  have fewer := (listed.filter (fun e => e.1 == name)).length_le
  rw [ownersOf, List.length_map]
  refine le_trans (le_of_eq ?_) fewer
  rw [List.filter_map, List.length_map, List.count_eq_length_filter]
  rfl

theorem not_attribute (checked : Checked stages attributes g) {name : String} {i : Nat}
    (producer : (producersOf stages).get? name = some i) : attributes.contains name = false := by
  rw [get?_producersOf] at producer
  have some_ : ownersOf stages name ≠ [] := by
    intro none
    simp [none] at producer
  have errors := checked.ownerErrors_eq_nil name some_
  rw [ownerErrors, List.append_eq_nil_iff] at errors
  by_contra shadows
  have taken : attributes.contains name = true := by simpa using shadows
  have none := errors.2
  rw [if_pos taken] at none
  exact some_ (by simpa using none)

/-! ### Readers -/

theorem inputErrors_eq_nil (checked : Checked stages attributes g) {i : Nat} {spec : StageSpec}
    (place : g.stages[i]? = some spec) {slot : Slot} (member : slot ∈ spec.orderingInputs) :
    (Sources.mk g.stages attributes (producersOf stages)).inputErrors i spec slot = [] := by
  have all := checked.noInputError
  rw [Sources.errors, List.flatMap_eq_nil_iff] at all
  have stage := all (spec, i) (List.mem_zipIdx_iff_getElem?.mpr place)
  simp only [Sources.stageErrors, List.append_eq_nil_iff, List.flatMap_eq_nil_iff] at stage
  exact stage.1 slot member

/-- A stage waits for the producers of the names that it reads. -/
theorem mem_predecessors (checked : Checked stages attributes g) {i p : Nat} {spec : StageSpec}
    (place : g.stages[i]? = some spec) : p ∈ g.predecessors i ↔
      ∃ slot ∈ spec.orderingInputs,
        (producersOf stages).get? (spec.inputName slot.name) = some p := by
  have lists : g.predecessors i =
      (Sources.mk g.stages attributes (producersOf stages)).predecessorsOf i spec := by
    rw [Graph.predecessors, checked.predecessors, Sources.getD_predecessors, place]
    rfl
  rw [lists]
  simp only [Sources.predecessorsOf, Sources.suppliers, List.mem_filter, List.mem_range,
    Bool.and_eq_true, bne_iff_ne, List.contains_iff_mem, List.mem_filterMap]
  constructor
  · rintro ⟨-, -, reads⟩
    exact reads
  · rintro ⟨slot, member, producer⟩
    refine ⟨?_, ?_, slot, member, producer⟩
    · obtain ⟨owner, there, -⟩ := mem_explicitNames_of_producer producer
      have size : g.stages.length = stages.length := checked.size_eq
      rw [size]
      exact (List.getElem?_eq_some_iff.mp there).1
    -- A stage that read its own output would have been refused.
    · rintro rfl
      have errors := checked.inputErrors_eq_nil place member
      simp only [Sources.inputErrors, Sources.selfCycle?, List.append_eq_nil_iff] at errors
      rw [if_pos producer] at errors
      cases errors.1.1

end Checked

/-! ### Stages without internal slots -/

/-- Without internal outputs there is nothing to rename. -/
theorem renameStages_of_plain (naming : Naming) (stages : List StageSpec)
    (plain : ∀ spec ∈ stages, spec.IsPlain) : renameStages naming stages = (naming, stages) := by
  induction stages generalizing naming with
  | nil => rfl
  | cons spec rest ih =>
    have first := plain spec List.mem_cons_self
    have none : spec.unmappedInternals = [] := by
      rw [StageSpec.unmappedInternals, List.map_eq_nil_iff, List.filter_eq_nil_iff]
      intro slot member
      simp [StageSpec.isExplicit, first.outputs slot member]
    have kept : renameStage naming spec = (naming, spec) := by
      rw [renameStage, none]
      rfl
    rw [renameStages, kept]
    simp only [ih naming (fun spec member => plain spec (List.mem_cons_of_mem _ member))]

theorem Checked.stages_eq (checked : Checked stages attributes g)
    (plain : ∀ spec ∈ stages, spec.IsPlain) : g.stages = stages := by
  obtain ⟨suffixes, renamed⟩ := checked.renamed
  rw [renamed, renameInternals, renameStages_of_plain _ _ plain]

/-- What holds of an accepted graph none of whose stages declares an internal slot. -/
structure IsPlain (g : Graph) : Prop where
  sound : g.IsSound
  plain : ∀ spec ∈ g.stages, spec.IsPlain
  /-- A stage waits for whoever produces what it reads. -/
  reads : ∀ i spec, g.stages[i]? = some spec → ∀ slot ∈ spec.inputs.slots,
    ∀ p, g.producer? (spec.inputName slot.name) = some p → p ∈ g.predecessors i
  distinct : ∀ (i : Nat) spec, g.stages[i]? = some spec → spec.explicitNames.Nodup
  owner : ∀ i spec, g.stages[i]? = some spec → ∀ name ∈ spec.explicitNames,
    g.producer? name = some i
  inside : ∀ name i, g.producer? name = some i → i < g.size
  notAttribute : ∀ name i, g.producer? name = some i → g.attributes.contains name = false

theorem Accepts.isPlain {suffixes : Suffixes} (accepted : g.Accepts stages attributes suffixes)
    (plain : ∀ spec ∈ stages, spec.IsPlain) : g.IsPlain := by
  have checked := accepted.checked
  have same := checked.stages_eq plain
  have producer (name : String) : g.producer? name = (producersOf stages).get? name := by
    rw [producer?, checked.producers]
  refine ⟨accepted.isSound, ?_, ?_, ?_, ?_, ?_, ?_⟩
  · rwa [same]
  · intro i spec place slot member p reads
    rw [producer] at reads
    refine (checked.mem_predecessors place).mpr ⟨slot, ?_, reads⟩
    rwa [(plain spec (same ▸ List.mem_of_getElem? place)).orderingInputs]
  · intro i spec place
    exact checked.explicitNames_nodup (same ▸ place)
  · intro i spec place name member
    rw [producer]
    exact checked.producer_of_mem (same ▸ place) member
  · intro name i produces
    rw [producer] at produces
    obtain ⟨spec, place, -⟩ := mem_explicitNames_of_producer produces
    rw [size, same]
    exact (List.getElem?_eq_some_iff.mp place).1
  · intro name i produces
    rw [producer] at produces
    rw [checked.sameAttributes]
    exact checked.not_attribute produces

end Graph

end Printworks
