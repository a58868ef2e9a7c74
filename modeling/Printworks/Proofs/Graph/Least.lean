import Mathlib.Data.Fintype.EquivFin
import Printworks.Proofs.Graph.Build

/-!
# The first of all orders

Ordering always places the stage declared first among those that are ready. So of all orders in
which each stage stands behind those that it waits for, the one found comes first when orders are
compared like words. No count of missing predecessors is ever lowered below zero, and the only
stages that are left over are those on a cycle of edges or behind one.
-/

namespace Printworks.Graph

/-- Whether a list puts the numbers below a bound in an order in which each stands behind its
predecessors. -/
structure IsOrder (n : Nat) (predecessors : Nat → List Nat) (order : List Nat) : Prop where
  perm : order.Perm (List.range n)
  before : ∀ l i r, order = l ++ i :: r → ∀ p ∈ predecessors i, p ∈ l

/-- Whether no path along predecessors comes back to where it began. -/
def IsAcyclic (predecessors : Nat → List Nat) : Prop :=
  ∀ i, ¬ Relation.TransGen (fun p i => p ∈ predecessors i) i i

theorem pairwise_insertSorted {n : Nat} {ns : List Nat} (new : n ∉ ns)
    (sorted : ns.Pairwise (· < ·)) : (insertSorted n ns).Pairwise (· < ·) := by
  induction ns with
  | nil => simp [insertSorted]
  | cons m rest ih =>
    obtain ⟨first, sorted'⟩ := List.pairwise_cons.mp sorted
    simp only [List.mem_cons, not_or] at new
    simp only [insertSorted]
    split
    next le =>
      have lt : n < m := by omega
      apply List.pairwise_cons.mpr
      refine ⟨fun k member => ?_, sorted⟩
      rcases List.mem_cons.mp member with rfl | later
      · exact lt
      · exact lt.trans (first k later)
    next gt =>
      apply List.pairwise_cons.mpr
      refine ⟨fun k member => ?_, ih new.2 sorted'⟩
      rcases mem_insertSorted.mp member with rfl | later
      · omega
      · exact first k later

namespace Sorting

variable {predecessors dependents : List (List Nat)} {s : Sorting}

theorem release_pairwise {ds : List Nat} (nodup : ds.Nodup) (s : Sorting)
    (sorted : s.ready.Pairwise (· < ·)) (new : ∀ d ∈ ds, d ∉ s.ready) :
    (ds.foldl release s).ready.Pairwise (· < ·) := by
  induction ds generalizing s with
  | nil => exact sorted
  | cons d rest ih =>
    obtain ⟨first, nodup⟩ := List.nodup_cons.mp nodup
    apply ih nodup
    · simp only [release]
      split
      · exact pairwise_insertSorted (new d List.mem_cons_self) sorted
      · exact sorted
    · intro j member inside
      have old : j ∉ s.ready := new j (List.mem_cons_of_mem _ member)
      simp only [release] at inside
      split at inside
      · rcases mem_insertSorted.mp inside with rfl | inside
        · exact first member
        · exact old inside
      · exact old inside

/-! ### The greedy choice -/

/-- Whether each stage was the first one declared of those that could have been placed instead. -/
structure IsGreedy (predecessors : List (List Nat)) (s : Sorting) : Prop where
  sorted : s.ready.Pairwise (· < ·)
  least : ∀ l i r, s.order = l ++ i :: r → ∀ j < predecessors.length, j ∉ l →
    (∀ p ∈ predecessors.getD j [], p ∈ l) → i ≤ j

theorem isGreedy_start (predecessors : List (List Nat)) :
    (start predecessors).IsGreedy predecessors := by
  constructor
  · exact List.Pairwise.filter _ List.pairwise_lt_range
  · intro l i r eq
    simp [start] at eq

theorem IsGreedy.step (mutual_ : Mutual predecessors dependents) (sound : s.IsSound predecessors)
    (greedy : s.IsGreedy predecessors) : (s.step dependents).IsGreedy predecessors := by
  unfold Sorting.step
  split
  next => exact greedy
  next i rest eq =>
    have here : i ∈ s.ready := eq ▸ List.mem_cons_self
    obtain ⟨first, sorted⟩ := List.pairwise_cons.mp (eq ▸ greedy.sorted)
    have nodup := mutual_.dependents i
    obtain ⟨order, -⟩ := release_order (dependents.getD i [])
      { s with ready := rest, order := s.order ++ [i] }
    constructor
    · apply release_pairwise nodup _ sorted
      intro d member inside
      have ready : d ∈ s.ready := eq ▸ List.mem_cons_of_mem i inside
      exact (sound.dependent mutual_ here member).1 ready
    · intro l j r split k lt new placed
      rw [order] at split
      rcases append_eq_append_cons split with ⟨r', old⟩ | ⟨l', rfl, last⟩
      · exact greedy.least l j r' old k lt new placed
      -- The stage that has just been placed is the least of all that were ready.
      · cases l' with
        | cons _ _ => simp at last
        | nil =>
          cases last
          rw [List.append_nil] at new placed
          have ready : k ∈ s.ready := (sound.ready k).mpr ⟨lt, new, placed⟩
          rw [eq] at ready
          rcases List.mem_cons.mp ready with rfl | later
          · exact le_refl k
          · exact le_of_lt (first k later)

theorem IsGreedy.run (mutual_ : Mutual predecessors dependents) (sound : s.IsSound predecessors)
    (greedy : s.IsGreedy predecessors) (steps : Nat) :
    (s.run dependents steps).IsGreedy predecessors := by
  induction steps generalizing s with
  | zero => exact greedy
  | succ steps ih => exact ih (sound.step mutual_) (greedy.step mutual_ sound)

/-- A greedy order comes first among all orders: where another one differs from it for the first
time, the other one has a stage that could have been placed there as well. -/
theorem IsGreedy.order_le (greedy : s.IsGreedy predecessors)
    (full : s.order.length = predecessors.length) {other : List Nat}
    (valid : IsOrder predecessors.length (fun i => predecessors.getD i []) other) :
    s.order = other ∨ List.Lex (· < ·) s.order other := by
  have lengths : other.length = predecessors.length := by simpa using valid.perm.length_eq
  have nodup : other.Nodup := valid.perm.nodup_iff.mpr List.nodup_range
  have suffixes (a : List Nat) : ∀ common b, s.order = common ++ a → other = common ++ b →
      a = b ∨ List.Lex (· < ·) a b := by
    induction a with
    | nil =>
      intro common b mine its
      have none : b.length = 0 := by
        have := congrArg List.length mine
        have := congrArg List.length its
        simp only [List.length_append, List.length_nil] at *
        omega
      exact .inl (List.length_eq_zero_iff.mp none).symm
    | cons i a ih =>
      intro common b mine its
      cases b with
      | nil =>
        have := congrArg List.length mine
        have := congrArg List.length its
        simp only [List.length_append, List.length_cons, List.length_nil] at *
        omega
      | cons j b =>
        by_cases same : i = j
        · subst same
          rcases ih (common ++ [i]) b (by simpa using mine) (by simpa using its) with eq | less
          · exact .inl (congrArg (i :: ·) eq)
          · exact .inr (.cons less)
        · have lt : j < predecessors.length := by
            have member : j ∈ List.range predecessors.length := valid.perm.subset (by simp [its])
            exact List.mem_range.mp member
          have new : j ∉ common := fun member =>
            (List.nodup_append.mp (its ▸ nodup)).2.2 j member j List.mem_cons_self rfl
          have le := greedy.least common i a mine j lt new (valid.before common j b its)
          exact .inr (.rel (by omega))
  exact suffixes s.order [] other rfl rfl

/-! ### Counting down -/

/-- When a stage is placed, each of those that wait for it still misses a predecessor by the time
that its count is lowered. -/
theorem IsSound.missing_pos (mutual_ : Mutual predecessors dependents)
    (sound : s.IsSound predecessors) {i : Nat} {rest : List Nat} (ready : s.ready = i :: rest)
    {released others : List Nat} {d : Nat}
    (split : dependents.getD i [] = released ++ d :: others) :
    0 < (released.foldl release ⟨s.missing, rest, s.order ++ [i]⟩).missing.getD d 0 := by
  have here : i ∈ s.ready := ready ▸ List.mem_cons_self
  have member : d ∈ dependents.getD i [] := by
    rw [split]
    simp
  have edge : i ∈ predecessors.getD d [] := (mutual_.mem i d).mp member
  have lt : d < predecessors.length := by
    by_contra ge
    simp [List.getD_eq_getElem?_getD, List.getElem?_eq_none (Nat.le_of_not_lt ge)] at edge
  -- It is listed once among those that wait, so its count has not been lowered before.
  obtain ⟨once, nodup, apart⟩ := List.nodup_append.mp (split ▸ mutual_.dependents i)
  have new : d ∉ released := fun old => apart d old d List.mem_cons_self rfl
  rw [release_missing once, if_neg new]
  change 0 < s.missing.getD d 0 - 0
  rw [Nat.sub_zero, sound.missing d lt]
  have unplaced : i ∉ s.order := ((sound.ready i).mp here).2.1
  exact List.countP_pos_iff.mpr ⟨i, edge, by simpa using unplaced⟩

/-! ### Cycles -/

/-- A stage that is placed stands behind all from which a path leads to it. -/
theorem IsSound.before_of_path (sound : s.IsSound predecessors) {p i : Nat}
    (path : Relation.TransGen (fun p i => p ∈ predecessors.getD i []) p i) :
    ∀ l r, s.order = l ++ i :: r → p ∈ l := by
  induction path with
  | single edge => exact fun l r eq => sound.before l _ r eq p edge
  | @tail j k _ edge ih =>
    intro l r eq
    obtain ⟨l', r', rfl⟩ := List.append_of_mem (sound.before l k r eq j edge)
    have earlier : p ∈ l' := ih l' (r' ++ k :: r) (by simpa using eq)
    exact List.mem_append_left _ earlier

theorem IsSound.isAcyclic (sound : s.IsSound predecessors)
    (all : ∀ i < predecessors.length, i ∈ s.order) :
    IsAcyclic (fun i => predecessors.getD i []) := by
  intro i path
  have lt : i < predecessors.length := by
    obtain ⟨p, -, edge⟩ := Relation.TransGen.tail'_iff.mp path
    by_contra ge
    simp [List.getD_eq_getElem?_getD, List.getElem?_eq_none (Nat.le_of_not_lt ge)] at edge
  obtain ⟨l, r, eq⟩ := List.append_of_mem (all i lt)
  have twice : i ∈ l := sound.before_of_path path l r eq
  exact (List.nodup_append.mp (eq ▸ sound.nodup)).2.2 i twice i List.mem_cons_self rfl

/-- Each round places one stage more, unless none is ready. -/
theorem run_ready_or_length (dependents : List (List Nat)) (steps : Nat) (s : Sorting) :
    (s.run dependents steps).ready = [] ∨
      (s.run dependents steps).order.length = s.order.length + steps := by
  induction steps generalizing s with
  | zero => exact .inr rfl
  | succ steps ih =>
    cases queue : s.ready with
    | nil =>
      have stuck : ∀ steps, s.run dependents steps = s := by
        intro steps
        induction steps with
        | zero => rfl
        | succ steps ih' => rw [run, show s.step dependents = s by rw [step, queue], ih']
      rw [stuck]
      exact .inl queue
    | cons i rest =>
      have grown : (s.step dependents).order.length = s.order.length + 1 := by
        simp only [step, queue]
        rw [(release_order _ _).1, List.length_append]
        rfl
      rw [run]
      rcases ih (s.step dependents) with none | length
      · exact .inl none
      · exact .inr (by omega)

/-- As many rounds as there are stages suffice: after them no stage is ready. -/
theorem ready_finish (mutual_ : Mutual predecessors dependents) :
    (finish predecessors dependents).ready = [] := by
  have sound := isSound_finish mutual_
  rcases run_ready_or_length dependents predecessors.length (start predecessors) with none | length
  · exact none
  -- If a stage was placed in each round, all of them are placed, and one that is ready is not.
  · have full : predecessors.length ≤ (finish predecessors dependents).order.length := by
      rw [finish, length]
      omega
    apply List.eq_nil_iff_forall_not_mem.mpr
    intro i ready
    obtain ⟨lt, new, -⟩ := (sound.ready i).mp ready
    exact new ((sound.mem_order full).mpr lt)

/-- Without a cycle no stage is left over when none is ready. -/
theorem IsSound.mem_order_of_isAcyclic (sound : s.IsSound predecessors) (none : s.ready = [])
    (inside : ∀ i, ∀ p ∈ predecessors.getD i [], p < predecessors.length)
    (acyclic : IsAcyclic (fun i => predecessors.getD i [])) :
    ∀ i < predecessors.length, i ∈ s.order := by
  let Path (a b : Fin predecessors.length) : Prop :=
    Relation.TransGen (fun p i => p ∈ predecessors.getD i []) a.val b.val
  have trans : IsTrans (Fin predecessors.length) Path :=
    ⟨fun _ _ _ first second => first.trans second⟩
  have irrefl : Std.Irrefl Path := ⟨fun a => acyclic a.val⟩
  -- There are finitely many stages, so there is nothing but cycles that paths could go on along.
  have founded : WellFounded Path := Finite.wellFounded_of_trans_of_irrefl Path
  suffices all : ∀ i : Fin predecessors.length, i.val ∈ s.order from
    fun i lt => all ⟨i, lt⟩
  intro i
  induction i using founded.induction with
  | _ i ih =>
    by_contra new
    have ready : i.val ∈ s.ready := by
      refine (sound.ready i.val).mpr ⟨i.isLt, new, fun p edge => ?_⟩
      exact ih ⟨p, inside i.val p edge⟩ (.single edge)
    rw [none] at ready
    cases ready

theorem finish_perm_iff (mutual_ : Mutual predecessors dependents) :
    (finish predecessors dependents).order.Perm (List.range predecessors.length) ↔
      IsAcyclic (fun i => predecessors.getD i []) := by
  have sound := isSound_finish mutual_
  constructor
  · intro perm
    exact sound.isAcyclic (fun i lt => perm.symm.subset (List.mem_range.mpr lt))
  · intro acyclic
    have all := sound.mem_order_of_isAcyclic (ready_finish mutual_) mutual_.lt acyclic
    apply (List.perm_ext_iff_of_nodup sound.nodup List.nodup_range).mpr
    intro i
    rw [List.mem_range]
    exact ⟨sound.lt i, all i⟩

theorem length_finish_lt_iff (mutual_ : Mutual predecessors dependents) :
    (finish predecessors dependents).order.length < predecessors.length ↔
      ¬ IsAcyclic (fun i => predecessors.getD i []) := by
  have sound := isSound_finish mutual_
  rw [← finish_perm_iff mutual_]
  constructor
  · intro short perm
    have := perm.length_eq
    rw [List.length_range] at this
    omega
  · intro noPerm
    by_contra full
    apply noPerm
    apply (List.perm_ext_iff_of_nodup sound.nodup List.nodup_range).mpr
    intro i
    rw [sound.mem_order (Nat.le_of_not_lt full), List.mem_range]

end Sorting

/-! ### Sets of stages -/

theorem Checked.isOrder {stages : List StageSpec} {attributes : Contract} {g : Graph}
    (checked : Checked stages attributes g) : IsOrder g.size g.predecessors g.order := by
  have sound := checked.isSound
  constructor
  · apply (List.perm_ext_iff_of_nodup sound.order_nodup List.nodup_range).mpr
    intro i
    rw [List.mem_range]
    exact sound.mem_order i
  · exact sound.before

theorem Checked.order_le {stages : List StageSpec} {attributes : Contract} {g : Graph}
    (checked : Checked stages attributes g) {other : List Nat}
    (valid : IsOrder g.size g.predecessors other) :
    g.order = other ∨ List.Lex (· < ·) g.order other := by
  have sound := checked.isSound
  have length := sound.length
  have greedy := (Sorting.isGreedy_start g.predecessorLists).run sound.edges
    (Sorting.isSound_start g.predecessorLists) g.predecessorLists.length
  have full : g.order.length = g.predecessorLists.length := by
    rw [length]
    simpa using checked.isOrder.perm.length_eq
  rw [checked.order] at full ⊢
  refine greedy.order_le full ?_
  rw [length]
  exact valid

/-- The order of an accepted set of stages is the first of all orders in which every stage stands
behind those that it waits for. Whatever the stages are, ordering ends, never lowers a count that is
zero, and places all stages exactly if no path of edges comes back to where it began. -/
theorem order_isLeast (stages : List StageSpec) (attributes : Contract) (suffixes : Suffixes) :
    let edges := (sources stages attributes suffixes).predecessors
    let after := (Sorting.start edges).run (reversed edges)
    (∀ g : Graph, g.Accepts stages attributes suffixes →
      g.size = stages.length ∧ g.predecessorLists = edges ∧
        IsOrder g.size g.predecessors g.order ∧
        ∀ other, IsOrder g.size g.predecessors other →
          g.order = other ∨ List.Lex (· < ·) g.order other) ∧
    (∀ rounds i rest, (after rounds).ready = i :: rest →
      ∀ released d others, (reversed edges).getD i [] = released ++ d :: others →
        0 < (released.foldl Sorting.release
          ⟨(after rounds).missing, rest, (after rounds).order ++ [i]⟩).missing.getD d 0) ∧
    (Sorting.finish edges (reversed edges)).ready = [] ∧
    ((Sorting.finish edges (reversed edges)).order.Perm (List.range stages.length) ↔
      IsAcyclic (fun i => edges.getD i [])) := by
  intro edges after
  have mutual_ : Mutual edges (reversed edges) := Sources.mutual_predecessors _
  have length : edges.length = stages.length := by
    have renamed := congrArg List.length
      (renameStages_map (·.name) (fun _ _ => rfl)
        ⟨(producersOf stages).keys ++ attributes.names, suffixes⟩ stages)
    rw [List.length_map, List.length_map] at renamed
    exact (Sources.length_predecessors _).trans renamed
  refine ⟨fun g accepted => ?_, ?_, Sorting.ready_finish mutual_, ?_⟩
  · have checked := accepted.checked
    have lists : g.predecessorLists = edges := by
      rw [checked.predecessors, accepted.stages_eq]
      rfl
    have size : g.size = stages.length := by
      rw [← checked.isSound.length, lists, length]
    exact ⟨size, lists, checked.isOrder, fun other valid => checked.order_le valid⟩
  · intro rounds i rest ready released d others split
    exact ((Sorting.isSound_start edges).run mutual_ rounds).missing_pos mutual_ ready split
  · rw [← length]
    exact Sorting.finish_perm_iff mutual_

theorem order_isLeast_pair :
    pair.Accepts pairStages pairAttributes .numbered ∧
      ∀ other, IsOrder pair.size pair.predecessors other →
        pair.order = other ∨ List.Lex (· < ·) pair.order other :=
  ⟨pair_accepted,
    ((order_isLeast pairStages pairAttributes .numbered).1 pair pair_accepted).2.2.2⟩

end Printworks.Graph
