import Printworks.Graph.Basic
import Printworks.Proofs.Graph.Order

/-!
# What a graph promises

A graph that has been built lists for each stage those that it waits for and those that wait for it,
and the two lists describe the same edges. Its order is one of all stages in which each stands behind
those that it waits for, so that no path of edges comes back to where it began. Stages have different
names.
-/

namespace Printworks

namespace Graph

/-- What holds of a graph whatever its stages declare. -/
structure IsSound (g : Graph) : Prop where
  edges : Mutual g.predecessorLists g.dependentLists
  length : g.predecessorLists.length = g.size
  mem_order : ∀ i, i ∈ g.order ↔ i < g.size
  order_nodup : g.order.Nodup
  before : ∀ l i r, g.order = l ++ i :: r → ∀ p ∈ g.predecessors i, p ∈ l
  names : g.stageNames.Nodup

/-! ### Inversion -/

/-- Whether a set of stages is accepted, and as which graph. -/
def Accepts (stages : List StageSpec) (attributes : Contract) (suffixes : Suffixes) (g : Graph) :
    Prop :=
  ∃ rest, build stages attributes suffixes = .ok (g, rest)

/-- What has been checked of an accepted set of stages, and what its graph is made of. -/
structure Checked (stages : List StageSpec) (attributes : Contract) (g : Graph) : Prop where
  renamed : ∃ suffixes, g.stages = (renameInternals stages attributes suffixes).1
  sameAttributes : g.attributes = attributes
  predecessors : g.predecessorLists =
    (Sources.mk g.stages attributes (producersOf stages)).predecessors
  dependents : g.dependentLists = reversed g.predecessorLists
  producers : g.producers = producersOf stages
  order : g.order = (Sorting.finish g.predecessorLists g.dependentLists).order
  noDuplicate : duplicateErrors stages = []
  noUnknownMapping : mappingErrors stages = []
  noProducerError : producerErrors stages attributes = []
  noInputError : (Sources.mk g.stages attributes (producersOf stages)).errors = []
  noCycle : ¬ g.order.length < g.stages.length

theorem Accepts.checked {stages : List StageSpec} {attributes : Contract} {suffixes : Suffixes}
    {g : Graph} (h : Accepts stages attributes suffixes g) : Checked stages attributes g := by
  obtain ⟨rest, h⟩ := h
  simp only [build] at h
  split at h
  next none =>
    simp only [List.isEmpty_iff, List.append_eq_nil_iff] at none
    obtain ⟨⟨⟨⟨duplicate, mapping⟩, producer⟩, input⟩, cycle⟩ := none
    cases h
    refine ⟨⟨suffixes, rfl⟩, rfl, rfl, rfl, rfl, rfl, duplicate, mapping, producer, input, ?_⟩
    intro short
    rw [cycleErrors, if_pos short] at cycle
    cases cycle
  next => cases h

/-- What the inputs of a set of stages can read once its outputs have been renamed. -/
def sources (stages : List StageSpec) (attributes : Contract) (suffixes : Suffixes) : Sources :=
  ⟨(renameInternals stages attributes suffixes).1, attributes, producersOf stages⟩

theorem Accepts.stages_eq {stages : List StageSpec} {attributes : Contract} {suffixes : Suffixes}
    {g : Graph} (h : Accepts stages attributes suffixes g) :
    g.stages = (sources stages attributes suffixes).stages := by
  obtain ⟨rest, h⟩ := h
  simp only [build] at h
  split at h
  next =>
    cases h
    rfl
  next => cases h

/-! ### Names -/

theorem repeated_eq_nil {seen names : List String} :
    repeated seen names = [] ↔ names.Nodup ∧ ∀ name ∈ names, name ∉ seen := by
  induction names generalizing seen with
  | nil => simp [repeated]
  | cons name rest ih =>
    simp only [repeated]
    split
    next old => simp [old]
    next new =>
      rw [ih, List.nodup_cons]
      constructor
      · rintro ⟨nodup, others⟩
        refine ⟨⟨fun member => others name member List.mem_cons_self, nodup⟩, ?_⟩
        intro n member
        rcases List.mem_cons.mp member with rfl | member
        · exact new
        · exact fun inside => others n member (List.mem_cons_of_mem _ inside)
      · rintro ⟨⟨first, nodup⟩, others⟩
        refine ⟨nodup, fun n member inside => ?_⟩
        rcases List.mem_cons.mp inside with rfl | inside
        · exact first member
        · exact others n (List.mem_cons_of_mem _ member) inside

theorem renameStages_map {α : Type} (f : StageSpec → α)
    (same : ∀ stage mapping, f { stage with outputMapping := mapping } = f stage)
    (naming : Naming) (stages : List StageSpec) :
    (renameStages naming stages).2.map f = stages.map f := by
  induction stages generalizing naming with
  | nil => rfl
  | cons stage rest ih =>
    simp only [renameStages, List.map_cons, ih]
    rw [renameStage]
    exact congrArg (· :: rest.map f) (same stage _)

variable {stages : List StageSpec} {attributes : Contract} {g : Graph}

namespace Checked

theorem map_stages (checked : Checked stages attributes g) {α : Type} (f : StageSpec → α)
    (same : ∀ stage mapping, f { stage with outputMapping := mapping } = f stage) :
    g.stages.map f = stages.map f := by
  obtain ⟨suffixes, eq⟩ := checked.renamed
  rw [eq, renameInternals]
  exact renameStages_map f same _ _

theorem size_eq (checked : Checked stages attributes g) : g.size = stages.length := by
  have lengths := congrArg List.length (checked.map_stages (·.name) (fun _ _ => rfl))
  rwa [List.length_map, List.length_map] at lengths

theorem names_nodup (checked : Checked stages attributes g) : g.stageNames.Nodup := by
  have none := checked.noDuplicate
  rw [duplicateErrors, List.map_eq_nil_iff, repeated_eq_nil] at none
  rw [stageNames, checked.map_stages (·.name) (fun _ _ => rfl)]
  exact none.1

end Checked

/-! ### Edges -/

theorem mutual_reversed {predecessors : List (List Nat)}
    (lt : ∀ i, ∀ p ∈ predecessors.getD i [], p < predecessors.length)
    (nodup : ∀ i, (predecessors.getD i []).Nodup) : Mutual predecessors (reversed predecessors) := by
  have dependents (p : Nat) (ltp : p < predecessors.length) : (reversed predecessors).getD p [] =
      (List.range predecessors.length).filter (fun i => (predecessors.getD i []).contains p) := by
    simp [reversed, ltp]
  -- Outside of the graph both lists are empty.
  have none (p : Nat) (ge : ¬ p < predecessors.length) : (reversed predecessors).getD p [] = [] := by
    simp [reversed, List.getD_eq_getElem?_getD, ge]
  refine ⟨by simp [reversed], lt, ?_, nodup, ?_⟩
  · intro p i
    by_cases ltp : p < predecessors.length
    · rw [dependents p ltp, List.mem_filter, List.mem_range, List.contains_iff_mem]
      refine ⟨And.right, fun edge => ⟨?_, edge⟩⟩
      by_contra ge
      simp [List.getD_eq_getElem?_getD, List.getElem?_eq_none (Nat.le_of_not_lt ge)] at edge
    · rw [none p ltp]
      exact ⟨fun h => absurd h List.not_mem_nil, fun edge => absurd (lt i p edge) ltp⟩
  · intro p
    by_cases ltp : p < predecessors.length
    · rw [dependents p ltp]
      exact List.Nodup.filter _ List.nodup_range
    · rw [none p ltp]
      exact List.nodup_nil

namespace Sources

theorem length_predecessors (src : Sources) : src.predecessors.length = src.stages.length := by
  simp [predecessors]

theorem getD_predecessors (src : Sources) (i : Nat) : src.predecessors.getD i [] =
    (src.stages[i]?.map (src.predecessorsOf i)).getD [] := by
  cases eq : src.stages[i]? with
  | none => simp [predecessors, List.getD_eq_getElem?_getD, List.getElem?_zipIdx, eq]
  | some stage => simp [predecessors, List.getD_eq_getElem?_getD, List.getElem?_zipIdx, eq]

theorem mutual_predecessors (src : Sources) :
    Mutual src.predecessors (reversed src.predecessors) := by
  refine mutual_reversed ?_ ?_
  · intro i p edge
    rw [getD_predecessors] at edge
    rw [length_predecessors]
    cases eq : src.stages[i]? with
    | none => simp [eq] at edge
    | some stage =>
      simp only [eq, Option.map_some, Option.getD_some, predecessorsOf, List.mem_filter,
        List.mem_range] at edge
      exact edge.1
  · intro i
    rw [getD_predecessors]
    cases src.stages[i]? with
    | none => exact List.nodup_nil
    | some stage => exact List.Nodup.filter _ List.nodup_range

end Sources

theorem Checked.isSound (checked : Checked stages attributes g) : g.IsSound := by
  have length : g.predecessorLists.length = g.size := by
    rw [checked.predecessors, Sources.length_predecessors]
    rfl
  have edges : Mutual g.predecessorLists g.dependentLists := by
    rw [checked.dependents, checked.predecessors]
    exact Sources.mutual_predecessors _
  have sorting := Sorting.isSound_finish edges
  -- No stage was left out of the order, or a cycle would have been reported.
  have full : g.predecessorLists.length ≤
      (Sorting.finish g.predecessorLists g.dependentLists).order.length := by
    rw [← checked.order, length]
    exact Nat.le_of_not_lt checked.noCycle
  refine ⟨edges, length, fun i => ?_, ?_, ?_, checked.names_nodup⟩
  · rw [checked.order, sorting.mem_order full, length]
  · rw [checked.order]
    exact sorting.nodup
  · intro l i r eq
    rw [checked.order] at eq
    exact sorting.before l i r eq

theorem Accepts.isSound {suffixes : Suffixes} (h : Accepts stages attributes suffixes g) :
    g.IsSound :=
  h.checked.isSound

/-! ### Paths -/

/-- Whether a stage waits for another, directly or through others. -/
def Leads (g : Graph) : Nat → Nat → Prop := Relation.TransGen (fun p i => p ∈ g.predecessors i)

namespace IsSound

theorem mem_dependents (sound : g.IsSound) {p i : Nat} :
    i ∈ g.dependents p ↔ p ∈ g.predecessors i :=
  sound.edges.mem p i

theorem lt_of_mem_predecessors (sound : g.IsSound) {p i : Nat} (edge : p ∈ g.predecessors i) :
    p < g.size ∧ i < g.size := by
  refine ⟨sound.length ▸ sound.edges.lt i p edge, ?_⟩
  by_contra ge
  rw [← sound.length] at ge
  simp [predecessors, List.getD_eq_getElem?_getD, List.getElem?_eq_none (Nat.le_of_not_lt ge)] at edge

theorem lt_of_leads (sound : g.IsSound) {p i : Nat} (path : g.Leads p i) :
    p < g.size ∧ i < g.size := by
  induction path with
  | single edge => exact sound.lt_of_mem_predecessors edge
  | tail _ edge ih => exact ⟨ih.1, (sound.lt_of_mem_predecessors edge).2⟩

/-- The stages behind a stage are those that wait for it, directly or through others. -/
theorem mem_transitiveDependents (sound : g.IsSound) {p i : Nat} :
    i ∈ g.transitiveDependents p ↔ g.Leads p i := by
  have same : Relation.TransGen (Edge g.dependentLists) p i ↔ g.Leads p i := by
    have edges : Edge g.dependentLists = (fun p i => p ∈ g.predecessors i) := by
      funext p i
      exact propext sound.mem_dependents
    rw [edges]
    rfl
  rw [transitiveDependents, mem_reachable, same, sound.edges.length, sound.length]
  exact ⟨And.right, fun path => ⟨(sound.lt_of_leads path).2, path⟩⟩

theorem nodup_transitiveDependents (i : Nat) : (g.transitiveDependents i).Nodup :=
  List.Nodup.filter _ List.nodup_range

theorem mem_roots {i : Nat} : i ∈ g.roots ↔ i < g.size ∧ g.predecessors i = [] := by
  simp [roots]

/-- What follows for a stage from what holds of all those that it waits for holds of all stages. -/
theorem induction (sound : g.IsSound) {P : Nat → Prop}
    (step : ∀ i < g.size, (∀ p ∈ g.predecessors i, P p) → P i) : ∀ i < g.size, P i := by
  -- Along the order, whose prefixes are closed under predecessors.
  have prefixes (l : List Nat) : ∀ r, g.order = l ++ r → ∀ i ∈ l, P i := by
    induction l using List.reverseRecOn with
    | nil => simp
    | append_singleton l i ih =>
      intro r eq j member
      have eq' : g.order = l ++ i :: r := by simpa using eq
      rcases List.mem_append.mp member with old | last
      · exact ih (i :: r) eq' j old
      · cases List.mem_singleton.mp last
        have lt : i < g.size := (sound.mem_order i).mp (by simp [eq'])
        exact step i lt (fun p edge => ih (i :: r) eq' p (sound.before l i r eq' p edge))
  intro i lt
  exact prefixes g.order [] (by simp) i ((sound.mem_order i).mpr lt)

/-- No path comes back to where it began. -/
theorem not_leads_self (sound : g.IsSound) (i : Nat) : ¬ g.Leads i i := by
  intro path
  have lt := (sound.lt_of_leads path).1
  revert path
  refine sound.induction (P := fun i => ¬ g.Leads i i) ?_ i lt
  intro i _ ih path
  obtain ⟨p, back, edge⟩ := Relation.TransGen.tail'_iff.mp path
  rcases Relation.reflTransGen_iff_eq_or_transGen.mp back with rfl | back
  · exact ih p edge (.single edge)
  · exact ih p edge (.head edge back)

end IsSound

/-! ### A small graph -/

/-- A stage that reads one name and writes another. -/
def step (stage input output : String) : StageSpec :=
  ⟨stage, .ofSlots [.plain input .any .required], .ofSlots [.plain output .any .required], ∅, ∅⟩

/-- A stage that reads an attribute, and one that reads what the first writes. -/
def pairStages : List StageSpec := [step "draw" "title" "sheet", step "bind" "sheet" "book"]

def pairAttributes : Contract := .ofSlots [.plain "title" .any .required]

def pair : Graph :=
  ⟨pairStages, pairAttributes, [[], [0]], [[1], []], .ofList [("sheet", 0), ("book", 1)], [0, 1]⟩

theorem pair_accepted : pair.Accepts pairStages pairAttributes .numbered := ⟨_, rfl⟩

end Graph

end Printworks
