import Mathlib.Algebra.BigOperators.Group.List.Basic
import Mathlib.Algebra.GroupWithZero.Nat
import Mathlib.Data.List.Nodup
import Mathlib.Data.List.Perm.Subperm
import Mathlib.Data.List.Range
import Mathlib.Logic.Relation
import Printworks.Graph.Order
import Printworks.Proofs.List

/-!
# Orders respect edges

Whatever the edges are, a stage is placed behind all its predecessors. If no stage is kept out, the
order lists every stage once, and facts about stages can be proved along it. The search along edges
finds exactly what some path of edges leads to.
-/

namespace Printworks

namespace Graph

/-- Whether two lists of neighbours describe the same edges, each neighbour being listed once. -/
structure Mutual (predecessors dependents : List (List Nat)) : Prop where
  length : dependents.length = predecessors.length
  lt : ∀ i, ∀ p ∈ predecessors.getD i [], p < predecessors.length
  mem : ∀ p i, i ∈ dependents.getD p [] ↔ p ∈ predecessors.getD i []
  predecessors : ∀ i, (predecessors.getD i []).Nodup
  dependents : ∀ p, (dependents.getD p []).Nodup

theorem mem_insertSorted {n m : Nat} {ns : List Nat} : m ∈ insertSorted n ns ↔ m = n ∨ m ∈ ns := by
  induction ns with
  | nil => simp [insertSorted]
  | cons k rest ih =>
    simp only [insertSorted]
    split
    · simp
    · simp only [List.mem_cons, ih]
      exact or_left_comm

theorem nodup_insertSorted {n : Nat} {ns : List Nat} (new : n ∉ ns) (nodup : ns.Nodup) :
    (insertSorted n ns).Nodup := by
  induction ns with
  | nil => simp [insertSorted]
  | cons k rest ih =>
    obtain ⟨first, nodup'⟩ := List.nodup_cons.mp nodup
    simp only [List.mem_cons, not_or] at new
    simp only [insertSorted]
    split
    · exact List.nodup_cons.mpr ⟨by simp [new], nodup⟩
    · refine List.nodup_cons.mpr ⟨?_, ih new.2 nodup'⟩
      rw [mem_insertSorted]
      rintro (rfl | member)
      · exact new.1 rfl
      · exact first member

/-- What holds of one element less is counted once less where that element is. -/
theorem countP_of_except {l : List Nat} (nodup : l.Nodup) {i : Nat} {P Q : Nat → Bool}
    (here : P i = true) (gone : Q i = false) (elsewhere : ∀ j, j ≠ i → Q j = P j) :
    l.countP Q = l.countP P - (if i ∈ l then 1 else 0) := by
  induction l with
  | nil => simp
  | cons p rest ih =>
    obtain ⟨first, nodup⟩ := List.nodup_cons.mp nodup
    rw [List.countP_cons, List.countP_cons, ih nodup]
    by_cases eq : p = i
    · subst eq
      simp [first, here, gone]
    · have other : ¬ i = p := fun h => eq h.symm
      rw [elsewhere p eq]
      by_cases member : i ∈ rest
      · have pos : 0 < rest.countP P := List.countP_pos_iff.mpr ⟨i, member, here⟩
        simp only [List.mem_cons, other, false_or, member, if_true]
        omega
      · simp [other, member]

/-- One stage more in the order is one predecessor less to miss, for those that have it. -/
theorem countP_missing {l order : List Nat} (nodup : l.Nodup) {i : Nat} (new : i ∉ order) :
    l.countP (fun p => p ∉ order ++ [i]) =
      l.countP (fun p => p ∉ order) - (if i ∈ l then 1 else 0) :=
  countP_of_except nodup (by simpa using new) (by simp) (fun j ne => by simp [ne])

namespace Sorting

/-! ### Releasing those that wait for a stage -/

theorem release_order (ds : List Nat) (s : Sorting) :
    (ds.foldl release s).order = s.order ∧
      (ds.foldl release s).missing.length = s.missing.length := by
  induction ds generalizing s with
  | nil => exact ⟨rfl, rfl⟩
  | cons d rest ih =>
    obtain ⟨order, length⟩ := ih (s.release d)
    exact ⟨order, by simpa [release] using length⟩

theorem release_missing {ds : List Nat} (nodup : ds.Nodup) (s : Sorting) (j : Nat) :
    (ds.foldl release s).missing.getD j 0 =
      s.missing.getD j 0 - (if j ∈ ds then 1 else 0) := by
  induction ds generalizing s with
  | nil => simp
  | cons d rest ih =>
    obtain ⟨first, nodup⟩ := List.nodup_cons.mp nodup
    rw [List.foldl_cons, ih nodup]
    by_cases eq : j = d
    · subst eq
      by_cases lt : j < s.missing.length
      · simp [release, first, lt]
      · simp [release, first, lt]
    · have other : ¬ d = j := fun h => eq h.symm
      simp [release, eq, List.getD_eq_getElem?_getD, other]

theorem release_ready {ds : List Nat} (nodup : ds.Nodup) (s : Sorting) (j : Nat) :
    j ∈ (ds.foldl release s).ready ↔ j ∈ s.ready ∨ (j ∈ ds ∧ s.missing.getD j 0 - 1 = 0) := by
  induction ds generalizing s with
  | nil => simp
  | cons d rest ih =>
    obtain ⟨first, nodup⟩ := List.nodup_cons.mp nodup
    have missing (other : j ≠ d) : (s.release d).missing.getD j 0 = s.missing.getD j 0 := by
      have other : ¬ d = j := fun h => other h.symm
      simp [release, List.getD_eq_getElem?_getD, other]
    have ready : j ∈ (s.release d).ready ↔ j ∈ s.ready ∨ (j = d ∧ s.missing.getD j 0 - 1 = 0) := by
      simp only [release]
      split
      next zero =>
        rw [mem_insertSorted]
        constructor
        · rintro (rfl | member)
          · exact .inr ⟨rfl, zero⟩
          · exact .inl member
        · rintro (member | ⟨rfl, -⟩)
          · exact .inr member
          · exact .inl rfl
      next more =>
        constructor
        · exact .inl
        · rintro (member | ⟨rfl, zero⟩)
          · exact member
          · exact absurd zero more
    rw [List.foldl_cons, ih nodup, ready]
    by_cases eq : j = d
    · subst eq
      simp [first]
    · rw [missing eq]
      simp only [eq, false_and, or_false, List.mem_cons, false_or]

theorem release_nodup {ds : List Nat} (nodup : ds.Nodup) (s : Sorting) (ready : s.ready.Nodup)
    (new : ∀ d ∈ ds, d ∉ s.ready) : (ds.foldl release s).ready.Nodup := by
  induction ds generalizing s with
  | nil => exact ready
  | cons d rest ih =>
    obtain ⟨first, nodup⟩ := List.nodup_cons.mp nodup
    refine ih nodup (s.release d) ?_ ?_
    · simp only [release]
      split
      · exact nodup_insertSorted (new d List.mem_cons_self) ready
      · exact ready
    · intro j member inside
      have old : j ∉ s.ready := new j (List.mem_cons_of_mem _ member)
      simp only [release] at inside
      split at inside
      · rcases mem_insertSorted.mp inside with rfl | inside
        · exact first member
        · exact old inside
      · exact old inside

/-! ### The invariant -/

/-- Whether the stages that are placed stand behind their predecessors, and what is kept about the
others is right. -/
structure IsSound (predecessors : List (List Nat)) (s : Sorting) : Prop where
  length : s.missing.length = predecessors.length
  nodup : s.order.Nodup
  lt : ∀ i ∈ s.order, i < predecessors.length
  missing : ∀ i < predecessors.length,
    s.missing.getD i 0 = (predecessors.getD i []).countP (fun p => p ∉ s.order)
  readyNodup : s.ready.Nodup
  ready : ∀ i, i ∈ s.ready ↔
    i < predecessors.length ∧ i ∉ s.order ∧ ∀ p ∈ predecessors.getD i [], p ∈ s.order
  before : ∀ l i r, s.order = l ++ i :: r → ∀ p ∈ predecessors.getD i [], p ∈ l

variable {predecessors dependents : List (List Nat)}

theorem isSound_start (predecessors : List (List Nat)) : (start predecessors).IsSound predecessors := by
  refine ⟨by simp [start], by simp [start], by simp [start], ?_, ?_, ?_, by simp [start]⟩
  · intro i lt
    simp [start, lt]
  · exact List.Nodup.filter _ List.nodup_range
  · intro i
    simp only [start, List.mem_filter, List.mem_range, List.isEmpty_iff, List.not_mem_nil,
      not_false_eq_true, true_and]
    refine and_congr_right (fun _ => ?_)
    exact List.eq_nil_iff_forall_not_mem

/-- A stage that is placed has its predecessors before it. -/
theorem IsSound.before_of_mem {s : Sorting} (sound : s.IsSound predecessors) {i p : Nat}
    (placed : i ∈ s.order) (edge : p ∈ predecessors.getD i []) : p ∈ s.order := by
  obtain ⟨l, r, eq⟩ := List.append_of_mem placed
  rw [eq]
  exact List.mem_append_left _ (sound.before l i r eq p edge)

private theorem before_concat {order : List Nat} {i : Nat}
    (before : ∀ l j r, order = l ++ j :: r → ∀ p ∈ predecessors.getD j [], p ∈ l)
    (last : ∀ p ∈ predecessors.getD i [], p ∈ order) :
    ∀ l j r, order ++ [i] = l ++ j :: r → ∀ p ∈ predecessors.getD j [], p ∈ l := by
  intro l j r eq
  -- The element in question is either the one that has been added or stands before it.
  rcases append_eq_append_cons eq with ⟨r', old⟩ | ⟨l', rfl, new⟩
  · exact before l j r' old
  · cases l' with
    | nil =>
      cases new
      simpa using last
    | cons k l' => simp at new

section Step

variable {s : Sorting} {i : Nat}

/-- What waits for the stage that is placed can neither have been ready nor placed before. -/
theorem IsSound.dependent (sound : s.IsSound predecessors)
    (mutual_ : Mutual predecessors dependents) (here : i ∈ s.ready) {d : Nat}
    (member : d ∈ dependents.getD i []) : d ∉ s.ready ∧ d ∉ s.order ∧ d ≠ i := by
  obtain ⟨-, new, placed⟩ := (sound.ready i).mp here
  have edge := (mutual_.mem i d).mp member
  refine ⟨?_, ?_, ?_⟩
  · intro ready
    exact new (((sound.ready d).mp ready).2.2 i edge)
  · intro old
    exact new (sound.before_of_mem old edge)
  · rintro rfl
    exact new (placed d edge)

theorem IsSound.missing_placed (sound : s.IsSound predecessors)
    (mutual_ : Mutual predecessors dependents) (new : i ∉ s.order) {j : Nat}
    (lt : j < predecessors.length) :
    s.missing.getD j 0 - (if j ∈ dependents.getD i [] then 1 else 0) =
      (predecessors.getD j []).countP (fun p => p ∉ s.order ++ [i]) := by
  rw [countP_missing (mutual_.predecessors j) new, sound.missing j lt]
  simp only [mutual_.mem]

/-- What is ready once a stage has been placed is what was ready besides it, and what has been waiting
for nothing else. -/
theorem IsSound.ready_placed (sound : s.IsSound predecessors)
    (mutual_ : Mutual predecessors dependents) (here : i ∈ s.ready) (j : Nat) :
    ((j ≠ i ∧ j ∈ s.ready) ∨ (j ∈ dependents.getD i [] ∧ s.missing.getD j 0 - 1 = 0)) ↔
      j < predecessors.length ∧ j ∉ s.order ++ [i] ∧
        ∀ p ∈ predecessors.getD j [], p ∈ s.order ++ [i] := by
  have new := ((sound.ready i).mp here).2.1
  constructor
  · rintro (⟨ne, ready⟩ | ⟨member, zero⟩)
    · obtain ⟨lt, newj, placed⟩ := (sound.ready j).mp ready
      exact ⟨lt, by simp [newj, ne], fun p edge => by simp [placed p edge]⟩
    · obtain ⟨-, newj, ne⟩ := sound.dependent mutual_ here member
      have edge := (mutual_.mem i j).mp member
      have lt : j < predecessors.length := by
        by_contra ge
        simp [List.getD_eq_getElem?_getD, List.getElem?_eq_none (Nat.le_of_not_lt ge)] at edge
      have none := sound.missing_placed mutual_ new lt
      rw [if_pos member, zero] at none
      refine ⟨lt, by simp [newj, ne], fun p edge => ?_⟩
      by_contra out
      exact List.countP_eq_zero.mp none.symm p edge (decide_eq_true out)
  · rintro ⟨lt, newj, placed⟩
    obtain ⟨old, ne⟩ : j ∉ s.order ∧ j ≠ i := by simpa using newj
    by_cases edge : i ∈ predecessors.getD j []
    -- It has been waiting for the stage, and for that one alone.
    · have member := (mutual_.mem i j).mpr edge
      have none := sound.missing_placed mutual_ new lt
      rw [if_pos member] at none
      have zero : (predecessors.getD j []).countP (fun p => p ∉ s.order ++ [i]) = 0 := by
        apply List.countP_eq_zero.mpr
        intro p edge
        rw [decide_eq_true_eq, not_not]
        exact placed p edge
      exact .inr ⟨member, none.trans zero⟩
    · refine .inl ⟨ne, (sound.ready j).mpr ⟨lt, old, fun p member => ?_⟩⟩
      rcases List.mem_append.mp (placed p member) with before | last
      · exact before
      · exact absurd (List.mem_singleton.mp last ▸ member) edge

/-- Placing a stage keeps all that is known. -/
theorem IsSound.step (mutual_ : Mutual predecessors dependents)
    (sound : s.IsSound predecessors) : (s.step dependents).IsSound predecessors := by
  unfold Sorting.step
  split
  next => exact sound
  next i rest eq =>
    have here : i ∈ s.ready := eq ▸ List.mem_cons_self
    obtain ⟨lt, new, placed⟩ := (sound.ready i).mp here
    have readyNodup : (i :: rest).Nodup := eq ▸ sound.readyNodup
    obtain ⟨first, restNodup⟩ := List.nodup_cons.mp readyNodup
    generalize placing : ({ s with ready := rest, order := s.order ++ [i] } : Sorting) = s₁
    have order₁ : s₁.order = s.order ++ [i] := by rw [← placing]
    have missing₁ : s₁.missing = s.missing := by rw [← placing]
    have ready₁ : s₁.ready = rest := by rw [← placing]
    have nodup := mutual_.dependents i
    obtain ⟨order, length⟩ := release_order (dependents.getD i []) s₁
    have inRest (j : Nat) : j ∈ rest ↔ j ≠ i ∧ j ∈ s.ready := by
      rw [eq, List.mem_cons]
      constructor
      · exact fun member => ⟨fun h => first (h ▸ member), .inr member⟩
      · rintro ⟨ne, rfl | member⟩
        · exact absurd rfl ne
        · exact member
    refine ⟨by rw [length, missing₁, sound.length], ?_, ?_, ?_, ?_, ?_, ?_⟩
    · rw [order, order₁, ← List.concat_eq_append]
      exact List.Nodup.concat new sound.nodup
    · intro j member
      rw [order, order₁, List.mem_append, List.mem_singleton] at member
      rcases member with old | rfl
      · exact sound.lt j old
      · exact lt
    · intro j ltj
      rw [release_missing nodup, order, order₁, missing₁, sound.missing_placed mutual_ new ltj]
    · apply release_nodup nodup s₁ (ready₁ ▸ restNodup)
      intro d member inside
      rw [ready₁] at inside
      exact (sound.dependent mutual_ here member).1 ((inRest d).mp inside).2
    · intro j
      rw [release_ready nodup, order, order₁, missing₁, ready₁, inRest]
      exact sound.ready_placed mutual_ here j
    · rw [order, order₁]
      exact before_concat sound.before placed

end Step

theorem IsSound.run (mutual_ : Mutual predecessors dependents) {s : Sorting}
    (sound : s.IsSound predecessors) (steps : Nat) :
    (s.run dependents steps).IsSound predecessors := by
  induction steps generalizing s with
  | zero => exact sound
  | succ steps ih => exact ih (sound.step mutual_)

/-- Stages are placed behind their predecessors, whatever the edges are. -/
theorem isSound_finish (mutual_ : Mutual predecessors dependents) :
    (finish predecessors dependents).IsSound predecessors :=
  (isSound_start predecessors).run mutual_ _

/-- An order that is as long as there are stages lists all of them. -/
theorem IsSound.mem_order {s : Sorting} (sound : s.IsSound predecessors)
    (full : predecessors.length ≤ s.order.length) {i : Nat} :
    i ∈ s.order ↔ i < predecessors.length := by
  have subset : s.order ⊆ List.range predecessors.length :=
    fun j member => List.mem_range.mpr (sound.lt j member)
  have perm := (sound.nodup.subperm subset).perm_of_length_le (by simpa using full)
  rw [perm.mem_iff, List.mem_range]

end Sorting

/-! ### Following edges -/

/-- Whether an edge leads from one stage to another. -/
def Edge (dependents : List (List Nat)) (a b : Nat) : Prop := b ∈ dependents.getD a []

/-- How many edges begin at stages that have not been reached. -/
def openEdges (dependents : List (List Nat)) (reached : List Nat) : Nat :=
  (((List.range dependents.length).filter (fun i => i ∉ reached)).map
    (fun i => (dependents.getD i []).length)).sum

variable {dependents : List (List Nat)}

theorem openEdges_cons {reached : List Nat} {i : Nat} (new : i ∉ reached) :
    openEdges dependents (i :: reached) + (dependents.getD i []).length =
      openEdges dependents reached := by
  by_cases lt : i < dependents.length
  · have unreached : i ∈ (List.range dependents.length).filter (fun j => j ∉ reached) := by
      simp [lt, new]
    have nodup : ((List.range dependents.length).filter (fun j => j ∉ reached)).Nodup :=
      List.Nodup.filter _ List.nodup_range
    have split : (List.range dependents.length).filter (fun j => j ∉ i :: reached) =
        ((List.range dependents.length).filter (fun j => j ∉ reached)).erase i := by
      rw [List.Nodup.erase_eq_filter nodup i, List.filter_filter]
      refine List.filter_congr (fun j _ => ?_)
      by_cases eq : j = i <;> simp [eq]
    rw [openEdges, openEdges, split, Nat.add_comm]
    exact List.sum_map_erase (fun j => (dependents.getD j []).length) unreached
  · have none : dependents.getD i [] = [] := by
      simp [List.getD_eq_getElem?_getD, List.getElem?_eq_none (Nat.le_of_not_lt lt)]
    have same : (List.range dependents.length).filter (fun j => j ∉ i :: reached) =
        (List.range dependents.length).filter (fun j => j ∉ reached) := by
      refine List.filter_congr (fun j member => ?_)
      have ne : j ≠ i := by
        rintro rfl
        exact lt (List.mem_range.mp member)
      simp [ne]
    rw [openEdges, same, none]
    rfl

theorem openEdges_nil : openEdges dependents [] = dependents.flatten.length := by
  have lengths : (List.range dependents.length).map (fun i => (dependents.getD i []).length) =
      dependents.map List.length := by
    refine List.ext_getElem (by simp) (fun i _ lt => ?_)
    simp only [List.length_map] at lt
    simp [lt]
  have all : (List.range dependents.length).filter (fun i => i ∉ []) =
      List.range dependents.length := List.filter_eq_self.mpr (by simp)
  rw [openEdges, all, lengths, List.length_flatten]

theorem reach_sound (fuel : Nat) {queue reached : List Nat} {P : Nat → Prop}
    (queued : ∀ a ∈ queue, P a) (found : ∀ a ∈ reached, P a)
    (closed : ∀ a b, P a → Edge dependents a b → P b) :
    ∀ a ∈ reach dependents fuel queue reached, P a := by
  induction fuel generalizing queue reached with
  | zero => exact found
  | succ fuel ih =>
    cases queue with
    | nil => exact found
    | cons i rest =>
      obtain ⟨first, others⟩ := List.forall_mem_cons.mp queued
      rw [reach]
      split
      next => exact ih others found
      next =>
        refine ih ?_ (List.forall_mem_cons.mpr ⟨first, found⟩)
        intro b member
        rcases List.mem_append.mp member with old | edge
        · exact others b old
        · exact closed i b first edge

/-- A search with enough fuel comes to all that edges lead to from what it has reached. -/
theorem reach_closed (fuel : Nat) {queue reached : List Nat}
    (enough : queue.length + openEdges dependents reached ≤ fuel)
    (closed : ∀ a ∈ reached, ∀ b, Edge dependents a b → b ∈ reached ∨ b ∈ queue) :
    (∀ a, a ∈ queue ∨ a ∈ reached → a ∈ reach dependents fuel queue reached) ∧
      ∀ a ∈ reach dependents fuel queue reached, ∀ b, Edge dependents a b →
        b ∈ reach dependents fuel queue reached := by
  induction fuel generalizing queue reached with
  | zero =>
    have empty : queue = [] := List.length_eq_zero_iff.mp (by omega)
    subst empty
    exact ⟨by simp [reach], by simpa [reach] using closed⟩
  | succ fuel ih =>
    cases queue with
    | nil => exact ⟨by simp [reach], by simpa [reach] using closed⟩
    | cons i rest =>
      rw [List.length_cons] at enough
      rw [reach]
      split
      -- What has been reached before is taken from the queue and costs nothing but that.
      next old =>
        have closed' : ∀ a ∈ reached, ∀ b, Edge dependents a b → b ∈ reached ∨ b ∈ rest := by
          intro a member b edge
          rcases closed a member b edge with inside | queued
          · exact .inl inside
          · rcases List.mem_cons.mp queued with rfl | queued
            · exact .inl old
            · exact .inr queued
        obtain ⟨kept, done⟩ := ih (by omega) closed'
        refine ⟨fun a member => kept a ?_, done⟩
        rcases member with queued | inside
        · rcases List.mem_cons.mp queued with rfl | queued
          · exact .inr old
          · exact .inl queued
        · exact .inr inside
      -- What is new puts as many into the queue as it has open edges.
      next new =>
        have fewer : openEdges dependents (i :: reached) + (dependents.getD i []).length =
            openEdges dependents reached := openEdges_cons new
        have closed' : ∀ a ∈ i :: reached, ∀ b, Edge dependents a b →
            b ∈ i :: reached ∨ b ∈ rest ++ dependents.getD i [] := by
          intro a member b edge
          rcases List.mem_cons.mp member with rfl | member
          · exact .inr (List.mem_append_right _ edge)
          · rcases closed a member b edge with inside | queued
            · exact .inl (List.mem_cons_of_mem _ inside)
            · rcases List.mem_cons.mp queued with rfl | queued
              · exact .inl List.mem_cons_self
              · exact .inr (List.mem_append_left _ queued)
        obtain ⟨kept, done⟩ := ih (by rw [List.length_append]; omega) closed'
        refine ⟨fun a member => kept a ?_, done⟩
        rcases member with queued | inside
        · rcases List.mem_cons.mp queued with rfl | queued
          · exact .inr List.mem_cons_self
          · exact .inl (List.mem_append_left _ queued)
        · exact .inr (List.mem_cons_of_mem _ inside)

theorem length_getD_le_flatten (l : List (List Nat)) (i : Nat) :
    (l.getD i []).length ≤ l.flatten.length := by
  induction l generalizing i with
  | nil => simp
  | cons head rest ih =>
    cases i with
    | zero => simp
    | succ i =>
      have := ih i
      simp only [List.getD_cons_succ, List.flatten_cons, List.length_append]
      omega

/-- The bound on the search from a stage has room for its neighbours and for all edges. -/
theorem search_le (dependents : List (List Nat)) (i : Nat) :
    (dependents.getD i []).length + openEdges dependents [] ≤
      dependents.flatten.length + dependents.flatten.length + 1 := by
  have neighbours := length_getD_le_flatten dependents i
  rw [openEdges_nil]
  omega

/-- The search from a stage finds the stages that a path of edges leads to. -/
theorem mem_reachable {i j : Nat} : j ∈ reachable dependents i ↔
    j < dependents.length ∧ Relation.TransGen (Edge dependents) i j := by
  -- The search begins with the neighbours of the stage, and the stage itself need not be found.
  obtain ⟨kept, closed⟩ := reach_closed _ (search_le dependents i) (by simp)
  have comes {j : Nat} (path : Relation.TransGen (Edge dependents) i j) :
      j ∈ reach dependents (dependents.flatten.length + dependents.flatten.length + 1)
        (dependents.getD i []) [] := by
    induction path with
    | single edge => exact kept _ (.inl edge)
    | tail _ edge ih => exact closed _ ih _ edge
  simp only [reachable, List.mem_filter, List.mem_range, List.contains_iff_mem]
  refine and_congr_right (fun _ => ⟨fun found => ?_, comes⟩)
  exact reach_sound (P := Relation.TransGen (Edge dependents) i) _
    (fun a edge => .single edge) (by simp) (fun a b path edge => path.tail edge) j found

end Graph

end Printworks
