import Printworks.Definition.Declaration
import Printworks.Proofs.Contract.Typing
import Printworks.Proofs.List

/-!
# What definitions declare

A contract that has been put together slot by slot has distinct names, and a default that a definition
gives for a slot is coerced to the type of that slot. So whatever a definition says, the contracts that
it declares are well typed.
-/

namespace Printworks

/-! ### Putting contracts together -/

namespace Contract

theorem mem_place {slots : List Slot} {slot s : Slot} (member : s ∈ place slots slot) :
    s = slot ∨ s ∈ slots := by
  induction slots with
  | nil => exact .inl (List.mem_singleton.mp member)
  | cons first rest ih =>
    rw [place] at member
    split at member
    next =>
      rcases List.mem_cons.mp member with same | later
      · exact .inl same
      · exact .inr (List.mem_cons_of_mem _ later)
    next =>
      rcases List.mem_cons.mp member with rfl | later
      · exact .inr List.mem_cons_self
      · exact (ih later).imp_right (List.mem_cons_of_mem _)

/-- A slot takes the place of the one of its name, or comes last. -/
theorem names_place (slots : List Slot) (slot : Slot) : (place slots slot).map (·.name) =
    if slot.name ∈ slots.map (·.name) then slots.map (·.name)
    else slots.map (·.name) ++ [slot.name] := by
  induction slots with
  | nil => rfl
  | cons first rest ih =>
    rw [place]
    by_cases same : first.name = slot.name
    · simp [same]
    · have other : slot.name ≠ first.name := Ne.symm same
      rw [if_neg same, List.map_cons, ih, List.map_cons]
      by_cases later : slot.name ∈ rest.map (·.name)
      · rw [if_pos later, if_pos (List.mem_cons_of_mem _ later)]
      · rw [if_neg later, if_neg (by simp [other, later]), List.cons_append]

theorem Distinct.push {c : Contract} (distinct : c.Distinct) (slot : Slot) :
    (c.push slot).Distinct := by
  rw [Distinct, names, Contract.push, names_place]
  split
  next => exact distinct
  next new => exact List.nodup_append.mpr ⟨distinct, List.nodup_singleton _, by simpa using new⟩

theorem distinct_ofSlots (slots : List Slot) : (ofSlots slots).Distinct := by
  have folded (c : Contract) (distinct : c.Distinct) : (slots.foldl push c).Distinct := by
    induction slots generalizing c with
    | nil => exact distinct
    | cons slot rest ih => exact ih _ (distinct.push slot)
  exact folded empty List.nodup_nil

theorem mem_ofSlots {slots : List Slot} {s : Slot} (member : s ∈ (ofSlots slots).slots) :
    s ∈ slots := by
  have folded (slots : List Slot) (c : Contract) (member : s ∈ (slots.foldl push c).slots) :
      s ∈ c.slots ∨ s ∈ slots := by
    induction slots generalizing c with
    | nil => exact .inl member
    | cons slot rest ih =>
      rcases ih (c.push slot) member with placed | later
      · rcases mem_place placed with rfl | before
        · exact .inr List.mem_cons_self
        · exact .inl before
      · exact .inr (List.mem_cons_of_mem _ later)
  rcases folded slots empty member with none | there
  · cases none
  · exact there

end Contract

/-! ### Definitions -/

namespace SlotDefinition

variable {d : SlotDefinition} {slot : Slot}

/-- Whether a slot is defined to be required by itself or to have a default. -/
def isAssured (d : SlotDefinition) : Bool :=
  match d.effectivePresence with
  | .required => d.oneOf.isNone
  | .hasDefault => true
  | .internal => false

theorem declare_eq_ok (declared : d.declare = .ok slot) : ∃ type kind,
    d.kind type = .ok kind ∧ slot = ⟨d.name, type, kind, d.requires, d.oneOf⟩ := by
  unfold declare at declared
  split at declared
  next => cases declared
  next type _ =>
    split at declared
    next => cases declared
    next kind given =>
      cases declared
      exact ⟨type, kind, given, rfl⟩

/-- A slot is of the kind that its definition says, and a default is coerced to its type. -/
theorem kind_eq_ok {type : ValueType} {kind : SlotKind} (given : d.kind type = .ok kind) :
    d.effectivePresence = .required ∧ kind = .required ∨
      d.effectivePresence = .internal ∧ kind = .internal ∨
      d.effectivePresence = .hasDefault ∧ ∃ raw v, d.default = some raw ∧
        Value.coerce? raw type = some v ∧ kind = .hasDefault v := by
  unfold SlotDefinition.kind at given
  split at given
  next presence =>
    cases given
    exact .inl ⟨presence, rfl⟩
  next presence =>
    cases given
    exact .inr (.inl ⟨presence, rfl⟩)
  next presence =>
    split at given
    next => cases given
    next raw said =>
      split at given
      next v coerced =>
        cases given
        refine .inr (.inr ⟨presence, raw, v, said, ?_, rfl⟩)
        unfold Value.coerce at coerced
        split at coerced
        next value =>
          cases coerced
          exact value
        next => cases coerced
      next => cases given

/-- The default of a slot is what its definition says, coerced to the type of the slot. -/
theorem default?_of_declare (declared : d.declare = .ok slot) {v : Value}
    (default : slot.default? = some v) :
    ∃ raw, d.default = some raw ∧ Value.coerce? raw slot.type = some v := by
  obtain ⟨type, kind, given, rfl⟩ := declare_eq_ok declared
  rcases kind_eq_ok given with ⟨-, rfl⟩ | ⟨-, rfl⟩ | ⟨-, raw, v, said, coerced, rfl⟩
  · cases default
  · cases default
  · cases default
    exact ⟨raw, said, coerced⟩

theorem isAssured_of_declare (declared : d.declare = .ok slot) : slot.isAssured = d.isAssured := by
  obtain ⟨type, kind, given, rfl⟩ := declare_eq_ok declared
  rcases kind_eq_ok given with ⟨presence, rfl⟩ | ⟨presence, rfl⟩ | ⟨presence, raw, v, -, -, rfl⟩
  · simp [isAssured, presence, Slot.isAssured, Slot.isRequired, Slot.default?]
  · simp [isAssured, presence, Slot.isAssured, Slot.isRequired, Slot.default?]
  · simp [isAssured, presence, Slot.isAssured, Slot.default?]

/-- Each slot that is declared has a definition. -/
theorem exists_of_declareAll {ds : List SlotDefinition} {c : Contract}
    (declared : declareAll ds = .ok c) (member : slot ∈ c.slots) :
    ∃ d ∈ ds, d.declare = .ok slot := by
  unfold declareAll at declared
  split at declared
  next => cases declared
  next slots each =>
    cases declared
    exact exists_of_mapM each (Contract.mem_ofSlots member)

theorem isTyped_of_declareAll {ds : List SlotDefinition} {c : Contract}
    (declared : declareAll ds = .ok c) : c.IsTyped := by
  constructor
  · unfold declareAll at declared
    split at declared
    next => cases declared
    next slots each =>
      cases declared
      exact Contract.distinct_ofSlots slots
  · intro slot member v default
    obtain ⟨d, -, one⟩ := exists_of_declareAll declared member
    obtain ⟨raw, -, coerced⟩ := default?_of_declare one default
    exact Value.satisfies_of_coerce? coerced

end SlotDefinition

theorem StageDefinition.declare_eq_ok {d : StageDefinition} {stage : StageSpec}
    (declared : d.declare = .ok stage) : SlotDefinition.declareAll d.inputs = .ok stage.inputs ∧
      SlotDefinition.declareAll d.outputs = .ok stage.outputs := by
  unfold declare at declared
  split at declared
  next => cases declared
  next inputs reads =>
    split at declared
    next => cases declared
    next outputs writes =>
      cases declared
      exact ⟨reads, writes⟩

namespace TemplateDefinition

variable {d : TemplateDefinition} {attributes : Contract} {stages : List StageSpec}

/-- Whether all attributes and outputs are defined to be required by themselves or to have defaults. -/
def isAssured (d : TemplateDefinition) : Bool :=
  d.attributes.all SlotDefinition.isAssured &&
    d.stages.all (fun stage => stage.outputs.all SlotDefinition.isAssured)

theorem declare_eq_ok (declared : d.declare = .ok (attributes, stages)) :
    SlotDefinition.declareAll d.attributes = .ok attributes ∧
      ∀ stage ∈ stages, ∃ definition ∈ d.stages, definition.declare = .ok stage := by
  unfold declare at declared
  split at declared
  next => cases declared
  next c given =>
    split at declared
    next => cases declared
    next l each =>
      cases declared
      exact ⟨given, fun stage member => exists_of_mapM each member⟩

theorem length_of_declare (declared : d.declare = .ok (attributes, stages)) :
    stages.length = d.stages.length := by
  unfold declare at declared
  split at declared
  next => cases declared
  next =>
    split at declared
    next => cases declared
    next made =>
      cases declared
      exact (forall₂_of_mapM made).length_eq.symm

/-- What a template declares is well typed. -/
theorem isTyped_of_declare (declared : d.declare = .ok (attributes, stages)) :
    attributes.IsTyped ∧ ∀ stage ∈ stages, stage.IsTyped := by
  obtain ⟨given, each⟩ := declare_eq_ok declared
  constructor
  · exact SlotDefinition.isTyped_of_declareAll given
  · intro stage member
    obtain ⟨definition, -, one⟩ := each stage member
    obtain ⟨reads, writes⟩ := StageDefinition.declare_eq_ok one
    constructor
    · exact SlotDefinition.isTyped_of_declareAll reads
    · exact SlotDefinition.isTyped_of_declareAll writes

theorem isAssured_of_declare (declared : d.declare = .ok (attributes, stages))
    (assured : d.isAssured = true) : (∀ slot ∈ attributes.slots, slot.isAssured = true) ∧
      ∀ stage ∈ stages, ∀ slot ∈ stage.outputs.slots, slot.isAssured = true := by
  obtain ⟨given, each⟩ := declare_eq_ok declared
  simp only [isAssured, Bool.and_eq_true, List.all_eq_true] at assured
  obtain ⟨attributesAssured, outputsAssured⟩ := assured
  constructor
  · intro slot member
    obtain ⟨definition, inside, one⟩ := SlotDefinition.exists_of_declareAll given member
    rw [SlotDefinition.isAssured_of_declare one]
    exact attributesAssured definition inside
  · intro stage there slot member
    obtain ⟨stageDefinition, known, declares⟩ := each stage there
    obtain ⟨-, writes⟩ := StageDefinition.declare_eq_ok declares
    obtain ⟨definition, inside, one⟩ := SlotDefinition.exists_of_declareAll writes member
    rw [SlotDefinition.isAssured_of_declare one]
    exact outputsAssured stageDefinition known definition inside

end TemplateDefinition

end Printworks
