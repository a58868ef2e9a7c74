import Mathlib.Data.List.Dedup
import Mathlib.Data.List.Forall2
import Printworks.Proofs.Graph.Ownership
import Printworks.Proofs.Suffixes

/-!
# How outputs are renamed

Renaming gives each unmapped internal output a name that nobody else has, and changes nothing
besides. So in a graph no two outputs write the same name, whatever kinds of slots they have, and
none writes the name of an attribute.
-/

namespace Printworks

/-- Whether a stage differs from what it has been at most in the names of its unmapped internal
outputs. -/
structure StageSpec.IsRenamed (before after : StageSpec) : Prop where
  frame : after = { before with outputMapping := after.outputMapping }
  kept : ∀ slot ∉ before.unmappedInternals, after.outputName slot = before.outputName slot

/-- An output that is not explicit goes by a name that is unmapped and internal. -/
theorem StageSpec.isExplicit_of_not_mem {spec : StageSpec} {slot : Slot}
    (member : slot ∈ spec.outputs.slots) (other : slot.name ∉ spec.unmappedInternals) :
    spec.isExplicit slot = true := by
  by_contra notExplicit
  apply other
  exact List.mem_map.mpr ⟨slot, List.mem_filter.mpr ⟨member, by simpa using notExplicit⟩, rfl⟩

/-- If slots have different names, no explicit one goes by the name of one that is not. -/
theorem StageSpec.not_mem_unmappedInternals {spec : StageSpec} (distinct : spec.outputs.Distinct)
    {slot : Slot} (member : slot ∈ spec.outputs.slots) (explicit : spec.isExplicit slot = true) :
    slot.name ∉ spec.unmappedInternals := by
  intro unmapped
  obtain ⟨other, there, same⟩ := List.mem_map.mp unmapped
  obtain ⟨inside, notExplicit⟩ := List.mem_filter.mp there
  have one : other = slot := List.inj_on_of_nodup_map distinct inside member same
  rw [one, explicit] at notExplicit
  cases notExplicit

theorem StageSpec.get?_of_mem_unmappedInternals {spec : StageSpec} {slot : String}
    (member : slot ∈ spec.unmappedInternals) : spec.outputMapping.get? slot = none := by
  obtain ⟨s, there, rfl⟩ := List.mem_map.mp member
  have notExplicit := (List.mem_filter.mp there).2
  simp only [StageSpec.isExplicit, Dict.contains, Bool.not_or, Bool.and_eq_true] at notExplicit
  simpa using notExplicit.2

theorem StageSpec.mem_explicitNames {spec : StageSpec} {name : String} :
    name ∈ spec.explicitNames ↔
      ∃ slot ∈ spec.outputs.slots,
        spec.isExplicit slot = true ∧ spec.outputName slot.name = name := by
  simp only [explicitNames, List.mem_map, List.mem_filter, and_assoc]

namespace Graph

/-- The name that a mapping makes a slot write. -/
def written (mapping : Dict String) (slot : String) : String := (mapping.get? slot).getD slot

/-- Whether names that were free have been given out in the meantime, each of them once. -/
structure Gives (before after : Naming) (names : List String) : Prop where
  kept : ∀ name ∈ before.taken, name ∈ after.taken
  given : ∀ name ∈ names, name ∈ after.taken
  nodup : names.Nodup
  free : ∀ name ∈ names, name ∉ before.taken

theorem Gives.none (naming : Naming) : Gives naming naming [] :=
  ⟨fun _ member => member, by simp, List.nodup_nil, by simp⟩

theorem Gives.append {a b c : Naming} {names more : List String} (first : Gives a b names)
    (second : Gives b c more) : Gives a c (names ++ more) := by
  constructor
  · exact fun name member => second.kept name (first.kept name member)
  · intro name member
    rcases List.mem_append.mp member with old | new
    · exact second.kept name (first.given name old)
    · exact second.given name new
  · refine List.Nodup.append first.nodup second.nodup (fun name old new => ?_)
    exact second.free name new (first.given name old)
  · intro name member inside
    rcases List.mem_append.mp member with old | new
    · exact first.free name old inside
    · exact second.free name new (first.kept name inside)

/-- Names that were given out first need not be remembered. -/
theorem Gives.later {a b c : Naming} {names more : List String} (first : Gives a b names)
    (second : Gives b c more) : Gives a c more :=
  ⟨fun name member => second.kept name (first.kept name member), second.given, second.nodup,
    fun name member inside => second.free name member (first.kept name inside)⟩

/-- One slot gets one name. A slot that has a name already gets another one, since its own is taken
by then. -/
theorem renameSlot_spec {naming : Naming} {mapping : Dict String} {slot : String}
    (unmapped : mapping.get? slot = none ∨ slot ∈ naming.taken) :
    let after := renameSlot (naming, mapping) slot
    Gives naming after.1 [written after.2 slot] ∧
      slot ∈ after.1.taken ∧ ∀ other, other ≠ slot → after.2.get? other = mapping.get? other := by
  have fresh := Suffixes.fresh_not_mem naming.taken slot naming.suffixes
  have own : slot ∉ naming.taken →
      Suffixes.fresh naming.taken slot naming.suffixes = (slot, naming.suffixes) :=
    Suffixes.fresh_of_not_mem naming.suffixes
  simp only [renameSlot]
  generalize Suffixes.fresh naming.taken slot naming.suffixes = drawn at fresh own
  obtain ⟨name, suffixes⟩ := drawn
  have named : written (if name = slot then mapping else mapping.insert slot name) slot = name := by
    unfold written
    split
    next same =>
      rcases unmapped with none | taken
      · rw [none, same]
        rfl
      · exact absurd (same ▸ taken) fresh
    next =>
      rw [Dict.get?_insert_self]
      rfl
  refine ⟨⟨fun n member => List.mem_cons_of_mem _ member, ?_, List.nodup_singleton _, ?_⟩, ?_, ?_⟩
  · intro n member
    rw [named, List.mem_singleton] at member
    exact member ▸ List.mem_cons_self
  · intro n member
    rw [named, List.mem_singleton] at member
    exact member ▸ fresh
  · by_cases taken : slot ∈ naming.taken
    · exact List.mem_cons_of_mem _ taken
    · cases own taken
      exact List.mem_cons_self
  · intro other ne
    split
    · rfl
    · exact Dict.get?_insert_ne _ _ (Ne.symm ne)

/-- Each slot of a list ends up with a name of its own, however often it is listed. -/
theorem foldl_renameSlot (slots : List String) (naming : Naming) {mapping : Dict String}
    (unmapped : ∀ slot ∈ slots, mapping.get? slot = none ∨ slot ∈ naming.taken) :
    let after := slots.foldl renameSlot (naming, mapping)
    Gives naming after.1 (slots.dedup.map (written after.2)) ∧
      ∀ other ∉ slots, after.2.get? other = mapping.get? other := by
  induction slots generalizing naming mapping with
  | nil => exact ⟨Gives.none naming, fun _ _ => rfl⟩
  | cons slot rest ih =>
    obtain ⟨given, taken, others⟩ := renameSlot_spec (unmapped slot List.mem_cons_self)
    have unmapped' : ∀ s ∈ rest, (renameSlot (naming, mapping) slot).2.get? s = none ∨
        s ∈ (renameSlot (naming, mapping) slot).1.taken := by
      intro s member
      by_cases same : s = slot
      · exact .inr (same ▸ taken)
      · rw [others s same]
        exact (unmapped s (List.mem_cons_of_mem _ member)).imp_right (given.kept s)
    obtain ⟨later, kept⟩ := ih _ unmapped'
    rw [List.foldl_cons]
    refine ⟨?_, fun other away => ?_⟩
    · by_cases again : slot ∈ rest
      · rw [List.dedup_cons_of_mem again]
        exact given.later later
      -- The slots that come later leave the name of this one alone.
      · have both := given.append later
        rw [written, ← kept slot again] at both
        rw [List.dedup_cons_of_notMem again]
        exact both
    · rw [List.mem_cons, not_or] at away
      exact (kept other away.2).trans (others other away.1)

theorem renameStage_spec (naming : Naming) (stage : StageSpec) :
    stage.IsRenamed (renameStage naming stage).2 ∧
      Gives naming (renameStage naming stage).1
        (stage.unmappedInternals.dedup.map (renameStage naming stage).2.outputName) := by
  obtain ⟨given, kept⟩ := foldl_renameSlot stage.unmappedInternals naming
    (fun slot member => .inl (StageSpec.get?_of_mem_unmappedInternals member))
  refine ⟨⟨rfl, fun slot away => ?_⟩, given⟩
  exact congrArg (Option.getD · slot) (kept slot away)

/-- The names that unmapped internal outputs have been given. -/
def givenNames (stages renamed : List StageSpec) : List String :=
  (stages.zip renamed).flatMap (fun (before, after) =>
    before.unmappedInternals.dedup.map after.outputName)

theorem renameStages_spec (naming : Naming) (stages : List StageSpec) :
    List.Forall₂ StageSpec.IsRenamed stages (renameStages naming stages).2 ∧
      Gives naming (renameStages naming stages).1
        (givenNames stages (renameStages naming stages).2) := by
  induction stages generalizing naming with
  | nil => exact ⟨.nil, Gives.none naming⟩
  | cons stage rest ih =>
    obtain ⟨renamed, given⟩ := renameStage_spec naming stage
    obtain ⟨renamed', given'⟩ := ih (renameStage naming stage).1
    exact ⟨.cons renamed renamed', given.append given'⟩

variable {stages : List StageSpec} {attributes : Contract} {suffixes : Suffixes} {g : Graph}

/-! ### Renamed stages -/

theorem sources_renamed (stages : List StageSpec) (attributes : Contract) (suffixes : Suffixes) :
    List.Forall₂ StageSpec.IsRenamed stages (sources stages attributes suffixes).stages :=
  (renameStages_spec _ stages).1

/-- The names that are given out have neither been owned nor belong to attributes. -/
theorem sources_given (stages : List StageSpec) (attributes : Contract) (suffixes : Suffixes) :
    (givenNames stages (sources stages attributes suffixes).stages).Nodup ∧
      ∀ name ∈ givenNames stages (sources stages attributes suffixes).stages,
        (producersOf stages).get? name = none ∧ name ∉ attributes.names := by
  obtain ⟨-, given⟩ := renameStages_spec
    ⟨(producersOf stages).keys ++ attributes.names, suffixes⟩ stages
  refine ⟨given.nodup, fun name member => ?_⟩
  have free := given.free name member
  simp only [List.mem_append, not_or, Dict.mem_keys] at free
  exact ⟨by simpa using free.1, free.2⟩

/-- The stages before and after renaming stand at the same places. -/
theorem exists_renamed {renamed : List StageSpec}
    (all : List.Forall₂ StageSpec.IsRenamed stages renamed) {i : Nat} {before : StageSpec}
    (place : stages[i]? = some before) :
    ∃ after, renamed[i]? = some after ∧ before.IsRenamed after := by
  obtain ⟨lt, rfl⟩ := List.getElem?_eq_some_iff.mp place
  have lt' : i < renamed.length := all.length_eq ▸ lt
  exact ⟨renamed[i], List.getElem?_eq_getElem lt', all.get lt lt'⟩

theorem exists_original {renamed : List StageSpec}
    (all : List.Forall₂ StageSpec.IsRenamed stages renamed) {i : Nat} {after : StageSpec}
    (place : renamed[i]? = some after) :
    ∃ before, stages[i]? = some before ∧ before.IsRenamed after := by
  obtain ⟨lt, rfl⟩ := List.getElem?_eq_some_iff.mp place
  have lt' : i < stages.length := all.length_eq ▸ lt
  exact ⟨stages[i], List.getElem?_eq_getElem lt', all.get lt' lt⟩

/-! ### The names of outputs -/

/-- Whether a name has a producer or is an attribute. -/
def provides (g : Graph) (name : String) : Bool :=
  (g.producer? name).isSome || g.attributes.contains name

/-- What is known of the names that the outputs of a graph write. -/
structure IsNamed (g : Graph) : Prop where
  injective : ∀ (i j : Nat) a b, g.stages[i]? = some a → g.stages[j]? = some b →
    ∀ slot ∈ a.outputs.names, ∀ slot' ∈ b.outputs.names,
      a.outputName slot = b.outputName slot' → i = j ∧ slot = slot'
  notAttribute : ∀ (i : Nat) spec, g.stages[i]? = some spec → ∀ slot ∈ spec.outputs.names,
    g.attributes.contains (spec.outputName slot) = false
  /-- An output has its stage for the producer of its name, or it is internal and its name has
  none. -/
  owner : ∀ i spec, g.stages[i]? = some spec → ∀ slot ∈ spec.outputs.names,
    g.producer? (spec.outputName slot) = some i ∨
      g.producer? (spec.outputName slot) = none ∧
        ∃ s ∈ spec.outputs.slots, s.name = slot ∧ s.isInternal = true
  /-- A stage waits for whoever produces what it reads for more than diagnosis. -/
  reads : ∀ i spec, g.stages[i]? = some spec → ∀ slot ∈ spec.orderingInputs,
    ∀ p, g.producer? (spec.inputName slot.name) = some p → p ∈ g.predecessors i

theorem mem_givenNames {before after : StageSpec} {renamed : List StageSpec} {i : Nat}
    (before_ : stages[i]? = some before) (after_ : renamed[i]? = some after)
    {name : String} (member : name ∈ before.unmappedInternals) :
    after.outputName name ∈ givenNames stages renamed := by
  have pair : (before, after) ∈ stages.zip renamed := by
    apply List.mem_of_getElem? (i := i)
    rw [List.getElem?_zip_eq_some]
    exact ⟨before_, after_⟩
  refine List.mem_flatMap.mpr ⟨_, pair, ?_⟩
  exact List.mem_map_of_mem (List.mem_dedup.mpr member)

theorem givenNames_inj {renamed : List StageSpec} (nodup : (givenNames stages renamed).Nodup)
    {i j : Nat} {before after a b : StageSpec} (before_ : stages[i]? = some before)
    (after_ : renamed[i]? = some after) (a_ : stages[j]? = some a) (b_ : renamed[j]? = some b)
    {name other : String} (member : name ∈ before.unmappedInternals)
    (member' : other ∈ a.unmappedInternals) (same : after.outputName name = b.outputName other) :
    i = j ∧ name = other := by
  rw [← List.mem_dedup] at member member'
  obtain ⟨each, apart⟩ := List.nodup_flatMap.mp nodup
  have pair : (stages.zip renamed)[i]? = some (before, after) :=
    List.getElem?_zip_eq_some.mpr ⟨before_, after_⟩
  have pair' : (stages.zip renamed)[j]? = some (a, b) := List.getElem?_zip_eq_some.mpr ⟨a_, b_⟩
  obtain ⟨lt, eq⟩ := List.getElem?_eq_some_iff.mp pair
  obtain ⟨lt', eq'⟩ := List.getElem?_eq_some_iff.mp pair'
  have places := List.pairwise_iff_getElem.mp apart
  -- Stages apart from each other have been given lists of names that share none.
  rcases Nat.lt_trichotomy i j with less | rfl | more
  · have disjoint := places i j lt lt' less
    rw [eq, eq'] at disjoint
    exact absurd (same ▸ List.mem_map_of_mem member') (disjoint (List.mem_map_of_mem member))
  · rw [pair] at pair'
    cases pair'
    exact ⟨rfl, List.inj_on_of_nodup_map (each _ (List.mem_of_getElem? pair)) member member' same⟩
  · have disjoint := places j i lt' lt more
    rw [eq, eq'] at disjoint
    exact absurd (same ▸ List.mem_map_of_mem member) (disjoint (List.mem_map_of_mem member'))

/-- An output of a graph writes the explicit name that its stage owns, or one that it has been
given. -/
theorem Accepts.output_cases (accepted : g.Accepts stages attributes suffixes) {i : Nat}
    {spec : StageSpec} (place : g.stages[i]? = some spec) {slot : String}
    (member : slot ∈ spec.outputs.names) :
    ∃ before, stages[i]? = some before ∧ before.outputs = spec.outputs ∧
      (slot ∉ before.unmappedInternals ∧ spec.outputName slot = before.outputName slot ∧
          g.producer? (spec.outputName slot) = some i ∨
        slot ∈ before.unmappedInternals ∧ g.producer? (spec.outputName slot) = none) ∧
      g.attributes.contains (spec.outputName slot) = false := by
  have checked := accepted.checked
  have renamed := sources_renamed stages attributes suffixes
  have free := (sources_given stages attributes suffixes).2
  rw [← accepted.stages_eq] at renamed free
  obtain ⟨before, place', same⟩ := exists_original renamed place
  have outputs : before.outputs = spec.outputs := by rw [same.frame]
  simp only [producer?, checked.producers, checked.sameAttributes]
  refine ⟨before, place', outputs, ?_⟩
  by_cases unmapped : slot ∈ before.unmappedInternals
  · obtain ⟨none, notAttribute⟩ := free _ (mem_givenNames place' place unmapped)
    refine ⟨.inr ⟨unmapped, none⟩, ?_⟩
    have away : ∀ s ∈ attributes.slots, s.name ≠ spec.outputName slot :=
      fun s inside same => notAttribute (List.mem_map.mpr ⟨s, inside, same⟩)
    rw [Contract.contains, Contract.get?, List.find?_eq_none.mpr (by simpa using away)]
    rfl
  · have kept := same.kept slot unmapped
    obtain ⟨s, inside, rfl⟩ := List.mem_map.mp member
    rw [← outputs] at inside
    have explicit := StageSpec.isExplicit_of_not_mem inside unmapped
    have owned : (producersOf stages).get? (spec.outputName s.name) = some i := by
      refine checked.producer_of_mem place' ?_
      exact StageSpec.mem_explicitNames.mpr ⟨s, inside, explicit, kept.symm⟩
    exact ⟨.inl ⟨unmapped, kept, owned⟩, checked.not_attribute owned⟩

theorem Accepts.outputName_inj (accepted : g.Accepts stages attributes suffixes) {i j : Nat}
    {a b : StageSpec} (placeA : g.stages[i]? = some a) (placeB : g.stages[j]? = some b)
    {slot slot' : String} (member : slot ∈ a.outputs.names) (member' : slot' ∈ b.outputs.names)
    (same : a.outputName slot = b.outputName slot') : i = j ∧ slot = slot' := by
  have nodup := (sources_given stages attributes suffixes).1
  rw [← accepted.stages_eq] at nodup
  obtain ⟨a', placeA', outputsA, kindA, -⟩ := accepted.output_cases placeA member
  obtain ⟨b', placeB', outputsB, kindB, -⟩ := accepted.output_cases placeB member'
  rw [← same] at kindB
  rcases kindA with ⟨explicitA, keptA, ownerA⟩ | ⟨unmappedA, noneA⟩
  · rcases kindB with ⟨explicitB, keptB, ownerB⟩ | ⟨-, noneB⟩
    -- Both names are owned, and a name has one owner.
    · rw [ownerA] at ownerB
      cases ownerB
      rw [placeA'] at placeB'
      cases placeB'
      obtain ⟨s, inA, rfl⟩ := List.mem_map.mp (outputsA ▸ member)
      obtain ⟨s', inB, rfl⟩ := List.mem_map.mp (outputsB ▸ member')
      have owned := accepted.checked.explicitNames_nodup placeA'
      refine ⟨rfl, congrArg Slot.name ?_⟩
      exact List.inj_on_of_nodup_map owned
        (List.mem_filter.mpr ⟨inA, StageSpec.isExplicit_of_not_mem inA explicitA⟩)
        (List.mem_filter.mpr ⟨inB, StageSpec.isExplicit_of_not_mem inB explicitB⟩)
        (keptA.symm.trans keptB)
    -- A name that is given out is not owned.
    · rw [ownerA] at noneB
      cases noneB
  · rcases kindB with ⟨-, -, ownerB⟩ | ⟨unmappedB, -⟩
    · rw [noneA] at ownerB
      cases ownerB
    · exact givenNames_inj nodup placeA' placeA placeB' placeB unmappedA unmappedB same

theorem Accepts.isNamed (accepted : g.Accepts stages attributes suffixes) : g.IsNamed := by
  have checked := accepted.checked
  constructor
  · intro i j a b placeA placeB slot member slot' member' same
    exact accepted.outputName_inj placeA placeB member member' same
  · intro i spec place slot member
    obtain ⟨_, _, _, _, free⟩ := accepted.output_cases place member
    exact free
  · intro i spec place slot member
    obtain ⟨before, _, outputs, kind, _⟩ := accepted.output_cases place member
    rcases kind with ⟨-, -, owned⟩ | ⟨unmapped, none⟩
    · exact .inl owned
    · obtain ⟨s, inside, rfl⟩ := List.mem_map.mp unmapped
      obtain ⟨there, notExplicit⟩ := List.mem_filter.mp inside
      refine .inr ⟨none, s, outputs ▸ there, rfl, ?_⟩
      simp only [StageSpec.isExplicit, Bool.not_or, Bool.and_eq_true] at notExplicit
      simpa using notExplicit.1
  · intro i spec place slot member p reads
    rw [producer?, checked.producers] at reads
    exact (checked.mem_predecessors place).mpr ⟨slot, member, reads⟩

end Graph

end Printworks
