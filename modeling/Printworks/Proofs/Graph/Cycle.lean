import Mathlib.Data.List.Chain
import Printworks.Proofs.Graph.Defects

/-!
# The cycle that is reported

A search for a cycle goes along edges, so what it finds is a closed walk of edges that meets no other
stage twice. It finds nothing only where every walk comes to an end, and the stages that are left out of
the order are not all of this kind. So exactly if edges come back to where they began, one cycle of
edges is reported, besides the stages that read what they write themselves.
-/

namespace Printworks

def GraphError.isCycle (e : GraphError) : Bool := e matches .cycle _

namespace Graph

/-! ### The search without a bound -/

/-- How a search looks at stages one after the other, having come along a path: a stage on the path
closes a cycle, one that is finished is passed over, and from any other it goes on to the successors
first. There is a result only if all of this comes to an end. -/
inductive Scans (successors : Nat → List Nat) :
    (path finished agenda : List Nat) → Search → Prop where
  | done {path finished : List Nat} : Scans successors path finished [] (.exhausted finished)
  | meets {path finished rest : List Nat} {next : Nat} (onPath : next ∈ path) :
      Scans successors path finished (next :: rest) (.found (closed path next))
  | passes {path finished rest : List Nat} {next : Nat} {result : Search} (away : next ∉ path)
      (old : next ∈ finished) (later : Scans successors path finished rest result) :
      Scans successors path finished (next :: rest) result
  | finds {path finished rest cycle : List Nat} {next : Nat} (away : next ∉ path)
      (new : next ∉ finished)
      (deeper : Scans successors (path ++ [next]) finished (successors next) (.found cycle)) :
      Scans successors path finished (next :: rest) (.found cycle)
  | returns {path finished finished' rest : List Nat} {next : Nat} {result : Search}
      (away : next ∉ path) (new : next ∉ finished)
      (deeper : Scans successors (path ++ [next]) finished (successors next) (.exhausted finished'))
      (later : Scans successors path (next :: finished') rest result) :
      Scans successors path finished (next :: rest) result

/-- Whether a list of stages goes along edges from a stage back to that stage, over at least one other
and over none of them twice. -/
structure IsCycle (edge : Nat → Nat → Prop) (path : List Nat) : Prop where
  closed : path.head? = path.getLast?
  several : 2 ≤ path.dropLast.length
  nodup : path.dropLast.Nodup
  edges : path.IsChain edge

/-- Whether a list of stages goes along edges and over none of them twice. -/
structure IsPath (edge : Nat → Nat → Prop) (path : List Nat) : Prop where
  nodup : path.Nodup
  edges : path.IsChain edge

variable {successors : Nat → List Nat} {n : Nat}

theorem overAll_cons (visit : List Nat → Nat → Search) (finished : List Nat) (first : Nat)
    (rest : List Nat) : Search.overAll (first :: rest) visit finished =
      (visit finished first).andThen (Search.overAll rest visit) := by
  have stays (cycle : List Nat) : rest.foldl (fun (s : Search) stage =>
      s.andThen (fun finished => visit finished stage)) (.found cycle) = .found cycle := by
    induction rest with
    | nil => rfl
    | cons _ _ ih => exact ih
  change rest.foldl _ (visit finished first) = _
  cases visit finished first with
  | found cycle => exact stays cycle
  | exhausted finished' => rfl

/-- What a search does with one stage that it looks at. -/
def look (successors : Nat → List Nat) (fuel : Nat) (path finished : List Nat) (next : Nat) :
    Search :=
  if next ∈ path then .found (closed path next)
  else if next ∈ finished then .exhausted finished
  else searchFrom successors fuel path finished next

/-- A path visits no stage twice, so it is never longer than there are stages, and fuel for as many
steps does not run out. -/
theorem scans_overAll (inside : ∀ i, ∀ j ∈ successors i, j < n) (fuel : Nat) {path : List Nat}
    (nodup : path.Nodup) (below : ∀ p ∈ path, p < n) (enough : n ≤ path.length + fuel)
    {agenda : List Nat} (planned : ∀ a ∈ agenda, a < n) (finished : List Nat) :
    Scans successors path finished agenda
      (Search.overAll agenda (look successors fuel path) finished) := by
  induction fuel generalizing path agenda finished with
  | zero =>
    -- The path leads through all stages, so that whatever comes next stands on it.
    induction agenda with
    | nil => exact .done
    | cons next rest _ =>
      have all : next ∈ path := by
        by_contra away
        have longer : (next :: path).Nodup := List.nodup_cons.mpr ⟨away, nodup⟩
        have subset : next :: path ⊆ List.range n := by
          intro p member
          rw [List.mem_range]
          rcases List.mem_cons.mp member with rfl | old
          · exact planned p List.mem_cons_self
          · exact below p old
        have bound := (longer.subperm subset).length_le
        rw [List.length_cons, List.length_range] at bound
        omega
      rw [overAll_cons, look, if_pos all]
      exact .meets all
  | succ fuel ih =>
    induction agenda generalizing finished with
    | nil => exact .done
    | cons next rest later =>
      obtain ⟨first, others⟩ := List.forall_mem_cons.mp planned
      rw [overAll_cons, look]
      by_cases onPath : next ∈ path
      · rw [if_pos onPath]
        exact .meets onPath
      by_cases old : next ∈ finished
      · rw [if_neg onPath, if_pos old]
        exact .passes onPath old (later others finished)
      · have nodup' : (path ++ [next]).Nodup := by
          rw [← List.concat_eq_append]
          exact List.Nodup.concat onPath nodup
        have below' : ∀ p ∈ path ++ [next], p < n := by
          intro p member
          rcases List.mem_append.mp member with old | last
          · exact below p old
          · exact List.mem_singleton.mp last ▸ first
        have enough' : n ≤ (path ++ [next]).length + fuel := by
          rw [List.length_append, List.length_singleton]
          omega
        have deeper := ih nodup' below' enough' (inside next) finished
        have unfolded : searchFrom successors (fuel + 1) path finished next =
            (Search.overAll (successors next) (look successors fuel (path ++ [next]))
              finished).andThen (fun finished => .exhausted (next :: finished)) := rfl
        rw [if_neg onPath, if_neg old, unfolded]
        cases result : Search.overAll (successors next) (look successors fuel (path ++ [next]))
          finished with
        | found cycle =>
          rw [result] at deeper
          exact .finds onPath old deeper
        | exhausted finished' =>
          rw [result] at deeper
          exact .returns onPath old deeper (later others (next :: finished'))

/-- The search among some stages comes to an end. -/
theorem exists_scans {dependents : List (List Nat)} {left : List Nat}
    (inside : ∀ i ∈ left, i < dependents.length) :
    ∃ result, Scans (fun i => (dependents.getD i []).filter left.contains) [] [] left result ∧
      findCycle dependents left =
        match result with
        | .found cycle => cycle
        | .exhausted _ => [] := by
  refine ⟨_, scans_overAll (n := dependents.length) ?_ dependents.length List.nodup_nil (by simp)
    (by simp) inside [], ?_⟩
  · intro i j member
    exact inside j (by simpa using (List.mem_filter.mp member).2)
  · have same : look (fun i => (dependents.getD i []).filter left.contains) dependents.length [] =
        fun finished start => if start ∈ finished then Search.exhausted finished
          else searchFrom (fun i => (dependents.getD i []).filter left.contains) dependents.length
            [] finished start := by
      funext finished start
      rw [look, if_neg List.not_mem_nil]
    rw [same]
    rfl

/-! ### What is found -/

/-- The part of a path from a stage on. -/
theorem closed_eq {path : List Nat} {stage : Nat} (onPath : stage ∈ path) :
    ∃ before after, path = before ++ stage :: after ∧ closed path stage = stage :: after ++ [stage] := by
  induction path with
  | nil => cases onPath
  | cons first rest ih =>
    by_cases same : first = stage
    · subst same
      exact ⟨[], rest, rfl, by simp [closed]⟩
    · rcases List.mem_cons.mp onPath with here | later
      · exact absurd here.symm same
      · obtain ⟨before, after, split, eq⟩ := ih later
        refine ⟨first :: before, after, by rw [split]; rfl, ?_⟩
        rw [← eq, closed, closed, List.dropWhile_cons_of_pos (by simpa using same)]

theorem IsPath.isCycle {edge : Nat → Nat → Prop} {path : List Nat} (is : IsPath edge path)
    (irreflexive : ∀ i, ¬ edge i i) {stage : Nat} (onPath : stage ∈ path)
    (back : ∀ last ∈ path.getLast?, edge last stage) : IsCycle edge (closed path stage) := by
  obtain ⟨before, after, split, eq⟩ := closed_eq onPath
  have part : IsPath edge (stage :: after) := by
    have nodup := is.nodup
    have edges := is.edges
    rw [split] at nodup edges
    exact ⟨(List.nodup_append.mp nodup).2.1, edges.right_of_append⟩
  have last : path.getLast? = (stage :: after).getLast? := by
    rw [split, List.getLast?_append_of_ne_nil _ (List.cons_ne_nil _ _)]
  rw [last] at back
  rw [eq]
  constructor
  · rw [List.getLast?_concat]
    rfl
  · rw [List.dropLast_concat]
    cases after with
    | nil => exact absurd (back stage rfl) (irreflexive stage)
    | cons _ _ => simp
  · rw [List.dropLast_concat]
    exact part.nodup
  · apply part.edges.append (List.isChain_singleton stage)
    intro x member y first
    cases Option.some.inj first
    exact back x member

theorem IsPath.concat {edge : Nat → Nat → Prop} {path : List Nat} (is : IsPath edge path) {next : Nat}
    (away : next ∉ path) (follows : ∀ last ∈ path.getLast?, edge last next) :
    IsPath edge (path ++ [next]) := by
  constructor
  · rw [← List.concat_eq_append]
    exact List.Nodup.concat away is.nodup
  · apply is.edges.append (List.isChain_singleton next)
    intro x member y first
    cases Option.some.inj first
    exact follows x member

/-- What a search finds goes along edges, if the stages that it has come along do and those that it is
about to look at follow on the last of them. -/
theorem Scans.isCycle {path finished agenda : List Nat} {result : Search}
    (scans : Scans successors path finished agenda result)
    (irreflexive : ∀ i, i ∉ successors i) (is : IsPath (fun a b => b ∈ successors a) path)
    (follow : ∀ last ∈ path.getLast?, ∀ a ∈ agenda, a ∈ successors last) :
    ∀ cycle, result = .found cycle → IsCycle (fun a b => b ∈ successors a) cycle := by
  induction scans with
  | done => exact fun _ found => by cases found
  | meets onPath =>
    rintro cycle ⟨⟩
    exact is.isCycle irreflexive onPath (fun last member => follow last member _ List.mem_cons_self)
  | passes away old later ih =>
    exact ih is (fun last member a inside => follow last member a (List.mem_cons_of_mem _ inside))
  | finds away new deeper ih =>
    apply ih
    · exact is.concat away (fun last member => follow last member _ List.mem_cons_self)
    · intro last member a inside
      rw [List.getLast?_concat] at member
      cases Option.some.inj member
      exact inside
  | returns away new deeper later _ ih =>
    exact ih is (fun last member a inside => follow last member a (List.mem_cons_of_mem _ inside))

/-! ### Where nothing is found -/

/-- What a search has finished with no cycle found are stages from which no walk goes on for ever. -/
theorem Scans.accessible {path finished agenda : List Nat} {result : Search}
    (scans : Scans successors path finished agenda result)
    (ends : ∀ f ∈ finished, Acc (fun b a => b ∈ successors a) f) :
    ∀ finished', result = .exhausted finished' →
      (∀ f ∈ finished', Acc (fun b a => b ∈ successors a) f) ∧ finished ⊆ finished' ∧
        agenda ⊆ finished' := by
  induction scans with
  | done =>
    rintro _ ⟨⟩
    exact ⟨ends, List.Subset.refl _, List.nil_subset _⟩
  | meets => exact fun _ nothing => by cases nothing
  | passes away old later ih =>
    intro finished' nothing
    obtain ⟨all, kept, planned⟩ := ih ends finished' nothing
    exact ⟨all, kept, List.cons_subset.mpr ⟨kept old, planned⟩⟩
  | finds => exact fun _ nothing => by cases nothing
  | @returns path finished finished₁ rest next result away new deeper later first second =>
    intro finished' nothing
    obtain ⟨all, kept, followed⟩ := first ends finished₁ rfl
    -- All successors are finished with before the stage itself is.
    have here : Acc (fun b a => b ∈ successors a) next :=
      Acc.intro next (fun b edge => all b (followed edge))
    obtain ⟨all', kept', planned⟩ :=
      second (List.forall_mem_cons.mpr ⟨here, all⟩) finished' nothing
    obtain ⟨own, older⟩ := List.cons_subset.mp kept'
    exact ⟨all', fun f member => older (kept member), List.cons_subset.mpr ⟨own, planned⟩⟩

/-- A stage to which a walk comes back is none from which every walk ends. -/
theorem not_transGen_of_acc {edge : Nat → Nat → Prop} {left : List Nat} {i : Nat}
    (inside : ∀ i, Relation.TransGen edge i i → i ∈ left)
    (ends : Acc (fun b a => edge a b ∧ b ∈ left) i) : ¬ Relation.TransGen edge i i := by
  induction ends with
  | intro i _ ih =>
    intro around
    obtain ⟨j, step, back⟩ := Relation.TransGen.head'_iff.mp around
    have around' : Relation.TransGen edge j j := Relation.TransGen.tail' back step
    exact ih j ⟨step, inside j around'⟩ around'

/-! ### Stages that are left out of the order -/

namespace Sorting

variable {predecessors dependents : List (List Nat)} {s : Sorting}

theorem IsSound.mem_blocked (sound : s.IsSound predecessors) {i : Nat} :
    i ∈ s.blocked ↔ i < predecessors.length ∧ ∃ p ∈ predecessors.getD i [], p ∉ s.order := by
  rw [blocked, List.mem_filter, List.mem_range, sound.length]
  refine and_congr_right (fun lt => ?_)
  rw [decide_eq_true_eq, sound.missing i lt, List.countP_pos_iff]
  simp

/-- When no stage is ready, those that have not been released are those that have not been placed. -/
theorem IsSound.mem_blocked_iff (sound : s.IsSound predecessors) (none : s.ready = []) {i : Nat} :
    i ∈ s.blocked ↔ i < predecessors.length ∧ i ∉ s.order := by
  rw [sound.mem_blocked]
  refine and_congr_right (fun lt => ⟨?_, fun unplaced => ?_⟩)
  · rintro ⟨p, edge, missing⟩ placed
    exact missing (sound.before_of_mem placed edge)
  · by_contra released
    have ready : i ∈ s.ready := (sound.ready i).mpr ⟨lt, unplaced, by simpa using released⟩
    rw [none] at ready
    cases ready

/-- The stages on a cycle are left out, since each of them has its predecessor left out. -/
theorem IsSound.blocked_of_cycle (sound : s.IsSound predecessors) {i : Nat}
    (around : Relation.TransGen (fun p i => p ∈ predecessors.getD i []) i i) : i ∈ s.blocked := by
  obtain ⟨p, back, edge⟩ := Relation.TransGen.tail'_iff.mp around
  have around' : Relation.TransGen (fun p i => p ∈ predecessors.getD i []) p p :=
    Relation.TransGen.head' edge back
  refine sound.mem_blocked.mpr ⟨?_, p, edge, fun placed => ?_⟩
  · by_contra ge
    simp [List.getD_eq_getElem?_getD, List.getElem?_eq_none (Nat.le_of_not_lt ge)] at edge
  · obtain ⟨l, r, eq⟩ := List.append_of_mem placed
    have twice : p ∈ l := sound.before_of_path around' l r eq
    exact (List.nodup_append.mp (eq ▸ sound.nodup)).2.2 p twice p List.mem_cons_self rfl

end Sorting

/-- Where edges come back to where they began, the search among the stages that are left out of the
order comes to an end with a cycle of edges. -/
theorem findCycle_isCycle {predecessors dependents : List (List Nat)}
    (mutual_ : Mutual predecessors dependents) (irreflexive : ∀ i, i ∉ predecessors.getD i [])
    {i : Nat} (around : Relation.TransGen (fun p i => p ∈ predecessors.getD i []) i i) :
    let left := (Sorting.finish predecessors dependents).blocked
    let cycle := findCycle dependents left
    Scans (fun i => (dependents.getD i []).filter left.contains) [] [] left (.found cycle) ∧
      IsCycle (fun p i => p ∈ predecessors.getD i []) cycle := by
  intro left cycle
  have sound := Sorting.isSound_finish mutual_
  have inside : ∀ i ∈ left, i < dependents.length := by
    intro i member
    rw [mutual_.length]
    exact (sound.mem_blocked.mp member).1
  have mem_successors (a b : Nat) : b ∈ (dependents.getD a []).filter left.contains ↔
      a ∈ predecessors.getD b [] ∧ b ∈ left := by
    rw [List.mem_filter, mutual_.mem, List.contains_iff_mem]
  obtain ⟨result, scans, found⟩ := exists_scans inside
  cases result with
  | exhausted finished =>
    -- Then no walk among these stages goes on for ever, but the one around does.
    obtain ⟨all, -, planned⟩ := scans.accessible (by simp) finished rfl
    have ends := all i (planned (sound.blocked_of_cycle around))
    simp only [mem_successors] at ends
    exact absurd around (not_transGen_of_acc (fun _ => sound.blocked_of_cycle) ends)
  | found cycle' =>
    cases found
    have is := scans.isCycle (fun i edge => irreflexive i ((mem_successors i i).mp edge).1)
      ⟨List.nodup_nil, List.isChain_nil⟩ (by simp) _ rfl
    refine ⟨scans, is.closed, is.several, is.nodup, is.edges.imp ?_⟩
    exact fun a b edge => ((mem_successors a b).mp edge).1

/-! ### What is reported -/

/-- The names of the stages that read a name which they are the first to write, once for each input for
more than diagnosis that does. -/
def ownReaders (stages : List StageSpec) : List String :=
  stages.zipIdx.flatMap (fun (stage, i) => stage.orderingInputs.filterMap (fun slot =>
    if firstWriter? stages (stage.inputName slot.name) = some i then some stage.name else none))

theorem filter_isCycle_eq_nil {errors : List GraphError} (others : ∀ e ∈ errors, e.isCycle = false) :
    errors.filter GraphError.isCycle = [] := by
  apply List.filter_eq_nil_iff.mpr
  intro e member
  rw [others e member]
  exact Bool.false_ne_true

section

variable {stages : List StageSpec} {attributes : Contract} {suffixes : Suffixes}

/-- Of what is wrong with an input, the cycle is that of a stage which supplies itself. -/
theorem filter_isCycle_inputErrors (i : Nat) (stage : StageSpec) (slot : Slot) :
    ((sources stages attributes suffixes).inputErrors i stage slot).filter GraphError.isCycle =
      ((sources stages attributes suffixes).selfCycle? i stage slot).toList := by
  have own : ((sources stages attributes suffixes).selfCycle? i stage slot).toList.filter
      GraphError.isCycle = ((sources stages attributes suffixes).selfCycle? i stage slot).toList := by
    rw [Sources.selfCycle?]
    split <;> rfl
  have mismatch : ((sources stages attributes suffixes).mismatch? stage slot).toList.filter
      GraphError.isCycle = [] := by
    simp only [Sources.mismatch?]
    split
    · rfl
    · split <;> rfl
  have unsatisfied : ((sources stages attributes suffixes).unsatisfied? stage slot).toList.filter
      GraphError.isCycle = [] := by
    simp only [Sources.unsatisfied?]
    split <;> rfl
  rw [Sources.inputErrors, List.filter_append, List.filter_append, own, mismatch, unsatisfied,
    List.append_nil, List.append_nil]

theorem filter_isCycle_stageErrors (i : Nat) (stage : StageSpec) :
    ((sources stages attributes suffixes).stageErrors i stage).filter GraphError.isCycle =
      stage.orderingInputs.filterMap
        ((sources stages attributes suffixes).selfCycle? i stage) := by
  have groups : ((sources stages attributes suffixes).groupErrors stage).filter
      GraphError.isCycle = [] := by
    apply filter_isCycle_eq_nil
    intro e member
    obtain ⟨_, -, -, rfl⟩ := Sources.mem_groupErrors.mp member
    rfl
  rw [Sources.stageErrors, List.filter_append, groups, List.append_nil, List.filter_flatMap,
    List.filterMap_eq_flatMap_toList]
  exact List.flatMap_congr (fun slot _ => filter_isCycle_inputErrors i stage slot)

/-- What is read does not depend on how outputs are renamed. -/
theorem filter_isCycle_errors :
    (sources stages attributes suffixes).errors.filter GraphError.isCycle =
      (ownReaders stages).map (fun name => .cycle [name, name]) := by
  -- Without the names of outputs the renamed stages are those that were declared.
  let bare (stage : StageSpec) : StageSpec := { stage with outputMapping := ∅ }
  have same : (sources stages attributes suffixes).stages.map bare = stages.map bare :=
    renameStages_map bare (fun _ _ => rfl) _ stages
  let own (stage : StageSpec) (i : Nat) : List GraphError := stage.orderingInputs.filterMap
    ((sources stages attributes suffixes).selfCycle? i stage)
  have stripped (stages : List StageSpec) : stages.zipIdx.flatMap (fun e => own e.1 e.2) =
      (stages.map bare).zipIdx.flatMap (fun e => own e.1 e.2) := by
    rw [List.zipIdx_map, List.flatMap_map]
    rfl
  calc
    _ = (sources stages attributes suffixes).stages.zipIdx.flatMap (fun e => own e.1 e.2) := by
      rw [Sources.errors, List.filter_flatMap]
      exact List.flatMap_congr (fun e _ => filter_isCycle_stageErrors e.2 e.1)
    _ = stages.zipIdx.flatMap (fun e => own e.1 e.2) := by
      rw [stripped, same, ← stripped]
    _ = _ := by
      rw [ownReaders, List.map_flatMap]
      refine List.flatMap_congr (fun e _ => ?_)
      rw [List.map_filterMap]
      refine List.filterMap_congr (fun slot _ => ?_)
      rw [Sources.selfCycle?, show (sources stages attributes suffixes).producers.get?
        (e.1.inputName slot.name) = _ from get?_producersOf_eq _ _]
      split <;> rfl

end

theorem filter_isCycle_reported (stages : List StageSpec) (attributes : Contract)
    (suffixes : Suffixes) :
    (reported stages attributes suffixes).filter GraphError.isCycle =
      let src := sources stages attributes suffixes
      let dependents := reversed src.predecessors
      (ownReaders stages).map (fun name => .cycle [name, name]) ++
        cycleErrors src.stages dependents (Sorting.finish src.predecessors dependents) := by
  have duplicates : (duplicateErrors stages).filter GraphError.isCycle = [] := by
    apply filter_isCycle_eq_nil
    intro e member
    obtain ⟨_, -, rfl⟩ := mem_duplicateErrors.mp member
    rfl
  have mappings : (mappingErrors stages).filter GraphError.isCycle = [] := by
    apply filter_isCycle_eq_nil
    intro e member
    obtain ⟨_, -, _, -, rfl⟩ := mem_mappingErrors.mp member
    rfl
  have producers : (producerErrors stages attributes).filter GraphError.isCycle = [] := by
    apply filter_isCycle_eq_nil
    intro e member
    obtain ⟨_, member⟩ := mem_producerErrors.mp member
    rcases mem_ownerErrors.mp member with ⟨-, rfl⟩ | ⟨-, _, -, -, rfl⟩
    · rfl
    · rfl
  have last (stages : List StageSpec) (dependents : List (List Nat)) (sorting : Sorting) :
      (cycleErrors stages dependents sorting).filter GraphError.isCycle =
        cycleErrors stages dependents sorting := by
    rw [cycleErrors]
    split <;> rfl
  rw [reported_eq]
  simp only [List.filter_append, duplicates, mappings, producers, filter_isCycle_errors, last,
    List.nil_append]

theorem build_eq_error {stages : List StageSpec} {attributes : Contract} {suffixes : Suffixes}
    (some_ : reported stages attributes suffixes ≠ []) :
    build stages attributes suffixes = .error (reported stages attributes suffixes) := by
  unfold reported at some_ ⊢
  split at some_
  next => exact absurd rfl some_
  next errors failed => rw [failed]

/-- If edges come back to where they began, building fails. The search among the stages that ordering has
left over then comes to an end with a cycle of edges, and this cycle is reported once, besides each input
that reads a name which its own stage is the first to write. If edges do not come back, only the latter
are reported. -/
theorem build_cycles (stages : List StageSpec) (attributes : Contract) (suffixes : Suffixes) :
    let edges := (sources stages attributes suffixes).predecessors
    let sorting := Sorting.finish edges (reversed edges)
    let own : List GraphError := (ownReaders stages).map (fun name => .cycle [name, name])
    (∀ i, i ∈ sorting.blocked ↔ i < stages.length ∧ i ∉ sorting.order) ∧
    ((∃ i, Relation.TransGen (Feeds stages) i i) →
      ∃ path, Scans (fun i => ((reversed edges).getD i []).filter sorting.blocked.contains) [] []
          sorting.blocked (.found path) ∧
        findCycle (reversed edges) sorting.blocked = path ∧ IsCycle (Feeds stages) path ∧
        ∃ errors, build stages attributes suffixes = .error errors ∧
          errors.filter GraphError.isCycle = own ++ [.cycle (path.map (stageName stages))]) ∧
    ((¬ ∃ i, Relation.TransGen (Feeds stages) i i) →
      (reported stages attributes suffixes).filter GraphError.isCycle = own) := by
  intro edges sorting own
  have mutual_ : Mutual edges (reversed edges) := Sources.mutual_predecessors _
  have feeds : (fun p i => p ∈ edges.getD i []) = Feeds stages := by
    funext p i
    exact propext mem_predecessors_sources
  have names : (sources stages attributes suffixes).stages.map (·.name) = stages.map (·.name) :=
    renameStages_map (·.name) (fun _ _ => rfl) _ stages
  have named : stageName (sources stages attributes suffixes).stages = stageName stages := by
    funext i
    rw [stageName, stageName, ← List.getElem?_map, ← List.getElem?_map, names]
  have length : edges.length = stages.length := by
    have lengths := congrArg List.length names
    rw [List.length_map, List.length_map] at lengths
    exact (Sources.length_predecessors _).trans lengths
  have cycles := filter_isCycle_reported stages attributes suffixes
  have short := length_order_lt_iff stages attributes suffixes
  refine ⟨fun i => ?_, fun around => ?_, fun acyclic => ?_⟩
  · rw [← length]
    exact (Sorting.isSound_finish mutual_).mem_blocked_iff (Sorting.ready_finish mutual_)
  · obtain ⟨i, around_⟩ := around
    rw [← feeds] at around_
    have irreflexive : ∀ i, i ∉ edges.getD i [] :=
      fun i edge => (mem_predecessors_sources.mp edge).1 rfl
    obtain ⟨scans, is⟩ := findCycle_isCycle mutual_ irreflexive around_
    rw [feeds] at is around_
    simp only [cycleErrors, if_pos (short.mpr ⟨i, around_⟩), named] at cycles
    refine ⟨_, scans, rfl, is, _, build_eq_error ?_, cycles⟩
    intro none
    rw [none] at cycles
    exact List.append_ne_nil_of_right_ne_nil _ (List.cons_ne_nil _ _) cycles.symm
  · simp only [cycleErrors, if_neg (fun left => acyclic (short.mp left)), List.append_nil] at cycles
    exact cycles

/-- Two stages that wait for each other. -/
def ringStages : List StageSpec := [step "fold" "back" "front", step "glue" "front" "back"]

theorem ring_isCyclic : ∃ i, Relation.TransGen (Feeds ringStages) i i := by
  have forth : Feeds ringStages 0 1 := ⟨by decide, _, rfl, _, List.mem_singleton_self _, rfl⟩
  have back : Feeds ringStages 1 0 := ⟨by decide, _, rfl, _, List.mem_singleton_self _, rfl⟩
  exact ⟨0, .tail (.single forth) back⟩

theorem build_cycles_ring :
    (∃ i, Relation.TransGen (Feeds ringStages) i i) ∧ ∃ path, IsCycle (Feeds ringStages) path ∧
      ∃ errors, build ringStages ∅ .numbered = .error errors ∧
        errors.filter GraphError.isCycle = [.cycle (path.map (stageName ringStages))] := by
  have around : ∃ i, Relation.TransGen (Feeds ringStages) i i := ring_isCyclic
  obtain ⟨path, -, -, is, reported⟩ := (build_cycles ringStages ∅ .numbered).2.1 around
  exact ⟨around, path, is, reported⟩

/-- Two stages that wait for each other, and two that read what they write: one of these reads a name that
another stage has written first, and one reads for diagnosis only. -/
def tangledStages : List StageSpec :=
  [⟨"draw", .ofSlots [], .ofSlots [.plain "sheet" .any .required], ∅, ∅⟩,
    step "trim" "sheet" "sheet",
    ⟨"log", .ofSlots [.plain "note" .any .internal], .ofSlots [.plain "note" .any .required], ∅, ∅⟩,
    step "fold" "back" "front", step "glue" "front" "back"]

/-- The input slots of a stage that read a name which it writes with an explicit output. -/
def ownInputs (stage : StageSpec) : List Slot :=
  stage.inputs.slots.filter (fun slot => stage.explicitNames.contains (stage.inputName slot.name))

/-- Not each input that reads an output of its own stage has a cycle reported. -/
theorem own_inputs_unreported :
    (∃ i, Relation.TransGen (Feeds tangledStages) i i) ∧
      (tangledStages.flatMap ownInputs).map (·.name) = ["sheet", "note"] ∧
      ∃ errors, build tangledStages ∅ .numbered = .error errors ∧
        errors.filter GraphError.isCycle = [.cycle ["fold", "glue", "fold"]] := by
  have forth : Feeds tangledStages 3 4 := ⟨by decide, _, rfl, _, List.mem_singleton_self _, rfl⟩
  have back : Feeds tangledStages 4 3 := ⟨by decide, _, rfl, _, List.mem_singleton_self _, rfl⟩
  exact ⟨⟨3, .tail (.single forth) back⟩, by decide, _, rfl, rfl⟩

end Graph

end Printworks
