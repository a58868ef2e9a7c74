import Printworks.Proofs.Graph.Defects

/-!
# What declares a name

Whatever can be read in an accepted graph is declared by one slot: by an output of the producer of the
name, or by the attribute. Building has checked that the type of this slot fits every input that reads
the name for more than diagnosis.
-/

namespace Printworks.Graph

/-- The slot that declares what a name holds: the output of its producer, or else the attribute. -/
def source? (g : Graph) (name : String) : Option Slot :=
  match g.producer? name with
  | some p => g.stages[p]?.bind (·.outputSlot? name)
  | none => g.attributes.get? name

variable {stages : List StageSpec} {attributes : Contract} {suffixes : Suffixes} {g : Graph}
  {i p : Nat} {spec : StageSpec} {name : String}

namespace Checked

theorem source?_eq (checked : Checked stages attributes g) (name : String) : g.source? name =
    ((Sources.mk g.stages attributes (producersOf stages)).provider? name).map (·.2) := by
  rw [source?, Sources.provider?, producer?, checked.producers, checked.sameAttributes]
  cases (producersOf stages).get? name with
  | none => simp [Function.comp_def]
  | some p => simp [Function.comp_def]

/-- What a name holds fits the inputs that read it. -/
theorem satisfies_of_source? (checked : Checked stages attributes g)
    (place : g.stages[i]? = some spec) {slot source : Slot} (reads : slot ∈ spec.orderingInputs)
    (found : g.source? (spec.inputName slot.name) = some source) :
    source.type.satisfies slot.type = true := by
  rw [checked.source?_eq] at found
  obtain ⟨⟨owner, produced⟩, provider, rfl⟩ := Option.map_eq_some_iff.mp found
  -- Building would have complained of the slot.
  have none := checked.inputErrors_eq_nil place reads
  simp only [Sources.inputErrors, List.append_eq_nil_iff, Sources.mismatch?, provider] at none
  by_contra unfit
  simp [unfit] at none

end Checked

/-- The contracts of a stage in a graph are those of a stage that the graph was built from. -/
theorem Accepts.exists_contracts (accepted : g.Accepts stages attributes suffixes)
    (place : g.stages[i]? = some spec) :
    ∃ stage ∈ stages, stage.inputs = spec.inputs ∧ stage.outputs = spec.outputs := by
  have renamed := sources_renamed stages attributes suffixes
  rw [← accepted.stages_eq] at renamed
  obtain ⟨before, place', same⟩ := exists_original renamed place
  rw [same.frame]
  exact ⟨before, List.mem_of_getElem? place', rfl, rfl⟩

/-- A name that has a producer is written by one of its outputs. -/
theorem Accepts.exists_output (accepted : g.Accepts stages attributes suffixes)
    (distinct : ∀ stage ∈ stages, stage.outputs.Distinct) (produces : g.producer? name = some p) :
    ∃ spec, g.stages[p]? = some spec ∧
      ∃ slot ∈ spec.outputs.slots, spec.outputName slot.name = name := by
  rw [producer?, accepted.checked.producers] at produces
  obtain ⟨before, place, member⟩ := mem_explicitNames_of_producer produces
  obtain ⟨slot, inside, explicit, writes⟩ := StageSpec.mem_explicitNames.mp member
  obtain ⟨after, place', renamed⟩ :=
    exists_renamed (sources_renamed stages attributes suffixes) place
  -- The output is explicit, so it has kept its name.
  have kept := renamed.kept slot.name (StageSpec.not_mem_unmappedInternals
    (distinct before (List.mem_of_getElem? place)) inside explicit)
  have outputs : after.outputs = before.outputs := by rw [renamed.frame]
  refine ⟨after, ?_, slot, ?_, ?_⟩
  · rw [accepted.stages_eq]
    exact place'
  · rwa [outputs]
  · rw [kept, writes]

/-- What can be read is declared. -/
theorem Accepts.exists_source? (accepted : g.Accepts stages attributes suffixes)
    (distinct : ∀ stage ∈ stages, stage.outputs.Distinct) (provided : g.provides name = true) :
    ∃ source, g.source? name = some source := by
  rw [source?]
  cases produces : g.producer? name with
  | some p =>
    obtain ⟨spec, place, slot, member, writes⟩ := accepted.exists_output distinct produces
    have found : (spec.outputSlot? name).isSome = true :=
      List.find?_isSome.mpr ⟨slot, member, by simp [writes]⟩
    obtain ⟨source, declares⟩ := Option.isSome_iff_exists.mp found
    exact ⟨source, by simp only [place, Option.bind_some, declares]⟩
  | none =>
    rw [provides, produces, Option.isSome_none, Bool.false_or] at provided
    exact Option.isSome_iff_exists.mp provided

/-- An output declares the name that it writes, if anything does. -/
theorem IsNamed.source?_of_output (named : g.IsNamed) (place : g.stages[i]? = some spec)
    (distinct : spec.outputs.Distinct) {slot source : Slot} (member : slot ∈ spec.outputs.slots)
    (found : g.source? (spec.outputName slot.name) = some source) : source = slot := by
  have declared : slot.name ∈ spec.outputs.names := List.mem_map_of_mem member
  rw [source?] at found
  rcases named.owner i spec place slot.name declared with mine | ⟨nobody, -⟩
  · simp only [mine, place, Option.bind_some] at found
    have inside : source ∈ spec.outputs.slots := List.mem_of_find?_eq_some found
    have writes : spec.outputName source.name = spec.outputName slot.name := by
      simpa using List.find?_some found
    have same := named.injective i i spec spec place place source.name
      (List.mem_map_of_mem inside) slot.name declared writes
    exact List.inj_on_of_nodup_map distinct inside member same.2
  -- No attribute goes by the name of an output.
  · have unknown := named.notAttribute i spec place slot.name declared
    simp only [nobody] at found
    rw [Contract.contains, found] at unknown
    cases unknown

/-- A name of an attribute is declared by the attribute. -/
theorem Accepts.source?_of_attribute (accepted : g.Accepts stages attributes suffixes)
    {slot : Slot} (known : attributes.get? name = some slot) : g.source? name = some slot := by
  have checked := accepted.checked
  have nobody : g.producer? name = none := by
    cases produces : g.producer? name with
    | none => rfl
    | some p =>
      rw [producer?, checked.producers] at produces
      have unknown := checked.not_attribute produces
      rw [Contract.contains, known] at unknown
      cases unknown
  rw [source?, nobody, checked.sameAttributes]
  exact known

end Printworks.Graph
