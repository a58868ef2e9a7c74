import Printworks.Proofs.Graph.Least
import Printworks.Proofs.Graph.Naming

/-!
# The edges of a graph

Whatever is asked of an accepted graph about its edges is answered from one relation, which the
declarations of the stages give: one stage reads what another one writes. The search for the stages
behind a stage comes to an end, and finds those that a path of these edges leads to.
-/

namespace Printworks.Graph

/-! ### The search without a bound -/

/-- How a search takes stages from a queue until none is left, passing over those that have been reached
before. There is a result only if the queue gets empty. -/
inductive Explores (dependents : List (List Nat)) : (queue reached result : List Nat) → Prop where
  | done {reached : List Nat} : Explores dependents [] reached reached
  | again {i : Nat} {rest reached result : List Nat} (old : i ∈ reached)
      (later : Explores dependents rest reached result) :
      Explores dependents (i :: rest) reached result
  | first {i : Nat} {rest reached result : List Nat} (new : i ∉ reached)
      (later : Explores dependents (rest ++ dependents.getD i []) (i :: reached) result) :
      Explores dependents (i :: rest) reached result

/-- Each stage that is reached for the first time uses up its open edges. -/
theorem explores_reach {dependents : List (List Nat)} (fuel : Nat) {queue reached : List Nat}
    (enough : queue.length + openEdges dependents reached ≤ fuel) :
    Explores dependents queue reached (reach dependents fuel queue reached) := by
  induction fuel generalizing queue reached with
  | zero =>
    have empty : queue = [] := List.length_eq_zero_iff.mp (by omega)
    subst empty
    exact .done
  | succ fuel ih =>
    cases queue with
    | nil => exact .done
    | cons i rest =>
      rw [List.length_cons] at enough
      rw [reach]
      split
      next old => exact .again old (ih (by omega))
      next new =>
        have fewer : openEdges dependents (i :: reached) + (dependents.getD i []).length =
            openEdges dependents reached := openEdges_cons new
        apply Explores.first new
        apply ih
        rw [List.length_append]
        omega

/-- The search from a stage comes to an end with the stages that are listed behind it. -/
theorem exists_explores {dependents : List (List Nat)}
    (inside : ∀ a b, Edge dependents a b → b < dependents.length) (i : Nat) :
    ∃ found, Explores dependents (dependents.getD i []) [] found ∧
      ∀ k, k ∈ reachable dependents i ↔ k ∈ found := by
  refine ⟨_, explores_reach _ (search_le dependents i), fun k => ?_⟩
  simp only [reachable, List.mem_filter, List.mem_range, List.contains_iff_mem]
  apply and_iff_right_of_imp
  exact reach_sound (P := (· < dependents.length)) _ (fun a edge => inside i a edge) (by simp)
    (fun a b _ edge => inside a b edge) k

/-! ### What declarations give -/

/-- Whether a stage has an input for more than diagnosis that reads a name which an output of another stage
writes, one that is for more than diagnosis or whose name has been chosen by a mapping. -/
def ReadsFrom (stages : List StageSpec) (i j : Nat) : Prop :=
  ∃ reader writer, stages[i]? = some reader ∧ stages[j]? = some writer ∧
    ∃ input ∈ reader.inputs.slots, input.isInternal = false ∧
      ∃ output ∈ writer.outputs.slots,
        (output.isInternal = false ∨ writer.outputMapping.contains output.name = true) ∧
          writer.outputName output.name = reader.inputName input.name

variable {stages : List StageSpec} {attributes : Contract} {suffixes : Suffixes} {g : Graph}

theorem readsFrom_iff {i j : Nat} : ReadsFrom stages i j ↔
    ∃ reader writer, stages[i]? = some reader ∧ stages[j]? = some writer ∧
      ∃ input ∈ reader.orderingInputs, reader.inputName input.name ∈ writer.explicitNames := by
  simp only [ReadsFrom, StageSpec.mem_explicitNames, StageSpec.isExplicit, StageSpec.orderingInputs,
    List.mem_filter, Bool.or_eq_true, Bool.not_eq_true', and_assoc]

/-- In an accepted graph nobody else writes the names of explicit outputs, so that a stage waits for those
that it reads from. -/
theorem Accepts.mem_predecessors_iff (accepted : g.Accepts stages attributes suffixes) {i j : Nat} :
    j ∈ g.predecessors i ↔ ReadsFrom stages i j := by
  have checked := accepted.checked
  have renamed := sources_renamed stages attributes suffixes
  rw [← accepted.stages_eq] at renamed
  rw [readsFrom_iff]
  constructor
  · intro edge
    obtain ⟨after, place⟩ : ∃ after, g.stages[i]? = some after := by
      have lt := (accepted.isSound.lt_of_mem_predecessors edge).2
      exact ⟨_, List.getElem?_eq_getElem lt⟩
    obtain ⟨before, place', same⟩ := exists_original renamed place
    obtain ⟨slot, member, producer⟩ := (checked.mem_predecessors place).mp edge
    obtain ⟨writer, there, writes⟩ := mem_explicitNames_of_producer producer
    rw [same.frame] at member writes
    exact ⟨before, writer, place', there, slot, member, writes⟩
  · rintro ⟨reader, writer, place, there, slot, member, writes⟩
    obtain ⟨after, place', same⟩ := exists_renamed renamed place
    apply (checked.mem_predecessors place').mpr
    rw [same.frame]
    exact ⟨slot, member, checked.producer_of_mem there writes⟩

/-! ### Order -/

theorem Checked.pairwise_predecessors (checked : Checked stages attributes g) (i : Nat) :
    (g.predecessors i).Pairwise (· < ·) := by
  rw [Graph.predecessors, checked.predecessors, Sources.getD_predecessors]
  cases g.stages[i]? with
  | none => exact List.Pairwise.nil
  | some stage => exact List.Pairwise.filter _ List.pairwise_lt_range

theorem Checked.pairwise_dependents (checked : Checked stages attributes g) (i : Nat) :
    (g.dependents i).Pairwise (· < ·) := by
  rw [Graph.dependents, checked.dependents, reversed, List.getD_eq_getElem?_getD, List.getElem?_map]
  cases (List.range g.predecessorLists.length)[i]? with
  | none => exact List.Pairwise.nil
  | some p => exact List.Pairwise.filter _ List.pairwise_lt_range

theorem pairwise_roots (g : Graph) : g.roots.Pairwise (· < ·) :=
  List.Pairwise.filter _ List.pairwise_lt_range

theorem pairwise_transitiveDependents (g : Graph) (i : Nat) :
    (g.transitiveDependents i).Pairwise (· < ·) :=
  List.Pairwise.filter _ List.pairwise_lt_range

/-- The edges of an accepted graph, asked for in either direction, are those that the declarations of its
stages give. All lists of stages are in increasing order. The search behind a stage ends, and lists what
paths of edges lead to, which the stage itself is never among. -/
theorem edges_eq_readsFrom (accepted : g.Accepts stages attributes suffixes) :
    (∀ i j, (j ∈ g.predecessors i ↔ ReadsFrom stages i j) ∧
      (i ∈ g.dependents j ↔ ReadsFrom stages i j)) ∧
    (∀ i, (g.predecessors i).Pairwise (· < ·) ∧ i ∉ g.predecessors i ∧
      (g.dependents i).Pairwise (· < ·) ∧ i ∉ g.dependents i) ∧
    (g.roots.Pairwise (· < ·) ∧
      ∀ i, i ∈ g.roots ↔ i < stages.length ∧ g.predecessors i = []) ∧
    ∀ i, (∃ found, Explores g.dependentLists (g.dependents i) [] found ∧
        ∀ k, k ∈ g.transitiveDependents i ↔ k ∈ found) ∧
      (g.transitiveDependents i).Pairwise (· < ·) ∧
      (∀ k, k ∈ g.transitiveDependents i ↔
        Relation.TransGen (fun j i => ReadsFrom stages i j) i k) ∧
      i ∉ g.transitiveDependents i := by
  have checked := accepted.checked
  have sound := accepted.isSound
  have before (i j : Nat) : j ∈ g.predecessors i ↔ ReadsFrom stages i j :=
    accepted.mem_predecessors_iff
  have apart (i : Nat) : i ∉ g.predecessors i := fun edge => sound.not_leads_self i (.single edge)
  have inside : ∀ a b, Edge g.dependentLists a b → b < g.dependentLists.length := by
    intro a b edge
    rw [sound.edges.length, sound.length]
    exact (sound.lt_of_mem_predecessors (sound.mem_dependents.mp edge)).2
  refine ⟨fun i j => ⟨before i j, sound.mem_dependents.trans (before i j)⟩, fun i => ?_,
    ⟨pairwise_roots g, fun i => ?_⟩,
    fun i => ⟨exists_explores inside i, pairwise_transitiveDependents g i, fun k => ?_, ?_⟩⟩
  · refine ⟨checked.pairwise_predecessors i, apart i, checked.pairwise_dependents i, ?_⟩
    rw [sound.mem_dependents]
    exact apart i
  · rw [IsSound.mem_roots, checked.size_eq]
  · rw [sound.mem_transitiveDependents, Leads]
    simp only [before]
  · rw [sound.mem_transitiveDependents]
    exact sound.not_leads_self i

theorem edges_eq_readsFrom_pair :
    pair.Accepts pairStages pairAttributes .numbered ∧ ReadsFrom pairStages 1 0 ∧
      Relation.TransGen (fun j i => ReadsFrom pairStages i j) 0 1 := by
  obtain ⟨direct, -, -, behind⟩ := edges_eq_readsFrom pair_accepted
  have edge : 0 ∈ pair.predecessors 1 := by decide
  have found : 1 ∈ pair.transitiveDependents 0 := by decide
  exact ⟨pair_accepted, (direct 1 0).1.mp edge, ((behind 0).2.2.1 1).mp found⟩

end Printworks.Graph
