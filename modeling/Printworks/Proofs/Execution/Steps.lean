import Mathlib.Data.List.Basic
import Printworks.Execution.State

/-!
# What each change of an execution does

The changes of an execution go over the stages behind one that has ended, one at a time. What all of
them do together is said here for each stage by itself, so that nothing else has to look into the
loops. Each change leaves the fields alone that it does not name.
-/

namespace Printworks.Execution

theorem ne_of_state? {e : Execution} {i j : Nat} {s t : StageState} (first : e.state? i = some s)
    (second : e.state? j = some t) (differ : s ≠ t) : i ≠ j := by
  rintro rfl
  exact differ (Option.some.inj (first.symm.trans second))

theorem getElem?_updateReport (e : Execution) (i j : Nat) (change : StageReport → StageReport) :
    (e.updateReport i change).reports[j]? =
      e.reports[j]?.map (fun r => if j = i then change r else r) := by
  rw [updateReport, List.getElem?_modify]
  by_cases eq : i = j
  · subst eq
    simp
  · have ne : ¬ j = i := fun h => eq h.symm
    simp [eq, ne]

theorem isPending_iff {e : Execution} {i : Nat} :
    e.isPending i = true ↔ e.state? i = some .waiting ∨ e.state? i = some .ready := by
  simp [isPending]

/-- How many of those that a stage waits for are not done, as far as the execution keeps count. -/
def missing (e : Execution) (i : Nat) : Nat := e.remaining.getD i 0

private theorem getD_set (l : List Nat) (i j n : Nat) :
    (l.set i n).getD j 0 = if j = i ∧ j < l.length then n else l.getD j 0 := by
  rw [List.getD_eq_getElem?_getD, List.getD_eq_getElem?_getD, List.getElem?_set]
  by_cases eq : i = j
  · subst eq
    by_cases lt : i < l.length
    · simp [lt]
    · simp [lt]
  · have ne : ¬ j = i := fun h => eq h.symm
    simp [eq, ne]

/-! ### Releasing -/

/-- What becomes of an execution when some stages have one stage less to wait for. -/
structure IsReleased (e : Execution) (stages : List Nat) (e' : Execution) : Prop where
  reports : ∀ j, e'.reports[j]? = e.reports[j]?.map (fun r =>
    if j ∈ stages ∧ r.state = .waiting ∧ e.missing j ≤ 1 then { r with state := .ready } else r)
  missing : ∀ j, e'.missing j =
    if j ∈ stages ∧ e.state? j = some .waiting then e.missing j - 1 else e.missing j
  ready : e'.ready = e.ready ++ stages.filter (fun j =>
    e.state? j = some .waiting ∧ e.missing j ≤ 1)
  length : e'.remaining.length = e.remaining.length
  frame : e' = { e with reports := e'.reports, remaining := e'.remaining, ready := e'.ready }

theorem isReleased_nil (e : Execution) : IsReleased e [] e :=
  ⟨by simp, by simp, by simp, rfl, rfl⟩

theorem isReleased_of_not_waiting {e : Execution} {i : Nat} (h : e.state? i ≠ some .waiting) :
    IsReleased e [i] e := by
  refine ⟨fun j => ?_, fun j => ?_, by simp [h], rfl, rfl⟩
  · cases found : e.reports[j]? with
    | none => rfl
    | some r =>
      by_cases eq : j = i
      · subst eq
        have state : r.state ≠ .waiting := by
          intro state
          exact h (by simp [state?, found, state])
        simp [state]
      · simp [eq]
  · by_cases eq : j = i
    · subst eq
      simp [h]
    · simp [eq]

theorem release_of_waiting {e : Execution} {i : Nat} (waiting : e.state? i = some .waiting) :
    e.release i =
      let left : Execution := { e with remaining := e.remaining.set i (e.missing i - 1) }
      if e.missing i - 1 = 0 then left.markReady i else left := by
  rw [release, if_pos waiting]
  rfl

theorem isReleased_release (e : Execution) (i : Nat) : IsReleased e [i] (e.release i) := by
  by_cases waiting : e.state? i = some .waiting
  · obtain ⟨report, found, state⟩ := Option.map_eq_some_iff.mp waiting
    have count (j : Nat) : (e.remaining.set i (e.missing i - 1)).getD j 0 =
        if j ∈ [i] ∧ e.state? j = some .waiting then e.missing j - 1 else e.missing j := by
      rw [getD_set]
      by_cases eq : j = i
      · subst eq
        by_cases lt : j < e.remaining.length
        · simp [lt, waiting]
        -- Where the execution keeps no count there is nothing to take away either.
        · have zero : e.missing j = 0 := by
            simp [missing, List.getD_eq_getElem?_getD, List.getElem?_eq_none (Nat.le_of_not_lt lt)]
          have zero' : e.remaining.getD j 0 = 0 := zero
          simp only [lt, and_false, if_false, List.mem_singleton, waiting, and_self, if_true, zero,
            zero']
      · simp only [eq, false_and, if_false, List.mem_singleton]
        rfl
    by_cases zero : e.missing i ≤ 1
    · have left : e.missing i - 1 = 0 := by omega
      rw [release_of_waiting waiting, if_pos left]
      refine ⟨fun j => ?_, count, ?_, List.length_set .., rfl⟩
      · rw [markReady, getElem?_updateReport]
        by_cases eq : j = i
        · subst eq
          simp [found, state, zero]
        · simp [eq]
      · simp [markReady, updateReport, waiting, zero]
    · have left : ¬ e.missing i - 1 = 0 := by omega
      rw [release_of_waiting waiting, if_neg left]
      refine ⟨fun j => ?_, count, by simp [zero], List.length_set .., rfl⟩
      by_cases eq : j = i
      · subst eq
        simp [zero]
      · simp [eq]
  · have released : e.release i = e := by simp only [release, waiting, if_false]
    rw [released]
    exact isReleased_of_not_waiting waiting

/-- Releasing one stage after the other does to each what releasing it alone does. -/
theorem IsReleased.cons {e e₁ e₂ : Execution} {i : Nat} {stages : List Nat} (new : i ∉ stages)
    (first : IsReleased e [i] e₁) (others : IsReleased e₁ stages e₂) :
    IsReleased e (i :: stages) e₂ := by
  have sameReport (j : Nat) (ne : j ≠ i) : e₁.reports[j]? = e.reports[j]? := by
    rw [first.reports j]
    simp [ne]
  have sameState (j : Nat) (ne : j ≠ i) : e₁.state? j = e.state? j := by
    rw [state?, sameReport j ne, state?]
  have sameMissing (j : Nat) (ne : j ≠ i) : e₁.missing j = e.missing j := by
    rw [first.missing j]
    simp [ne]
  refine ⟨fun j => ?_, fun j => ?_, ?_, others.length.trans first.length, ?_⟩
  · rw [others.reports j]
    by_cases eq : j = i
    · subst eq
      rw [first.reports j]
      cases e.reports[j]? <;> simp [new]
    · rw [sameReport j eq, sameMissing j eq]
      simp [eq]
  · rw [others.missing j]
    by_cases eq : j = i
    · subst eq
      rw [first.missing j]
      simp [new]
    · rw [sameState j eq, sameMissing j eq]
      simp [eq]
  · have same : stages.filter (fun j => e₁.state? j = some .waiting ∧ e₁.missing j ≤ 1) =
        stages.filter (fun j => e.state? j = some .waiting ∧ e.missing j ≤ 1) := by
      refine List.filter_congr (fun j member => ?_)
      have ne : j ≠ i := by
        rintro rfl
        exact new member
      rw [sameState j ne, sameMissing j ne]
    rw [others.ready, first.ready, same, List.append_assoc, ← List.filter_append]
    rfl
  · rw [others.frame, first.frame]

theorem isReleased_foldl {stages : List Nat} (nodup : stages.Nodup) (e : Execution) :
    IsReleased e stages (stages.foldl release e) := by
  induction stages generalizing e with
  | nil => exact isReleased_nil e
  | cons i rest ih =>
    obtain ⟨new, nodup⟩ := List.nodup_cons.mp nodup
    -- No stage stands twice in the list, so one release does not show in what the next one finds.
    exact (isReleased_release e i).cons new (ih nodup _)

/-! ### Skipping -/

/-- Whether a state is one of a stage that has not started and may still do so. -/
def IsPendingState (s : StageState) : Prop := s = .waiting ∨ s = .ready

instance (s : StageState) : Decidable (IsPendingState s) :=
  inferInstanceAs (Decidable (s = .waiting ∨ s = .ready))

/-- What becomes of an execution when some stages will not start that have not already. -/
structure IsSkipped (e : Execution) (reason : String) (stages : List Nat) (e' : Execution) :
    Prop where
  reports : ∀ j, e'.reports[j]? = e.reports[j]?.map (fun r =>
    if j ∈ stages ∧ IsPendingState r.state then { r with state := .skipped, error := some reason }
    else r)
  ready : e'.ready = e.ready.filter (fun j => ¬ (j ∈ stages ∧ e.isPending j = true))
  events : e'.events = e.events ++
    (stages.filter e.isPending).map (fun j => .stageSkipped e.id (e.stageName j) reason)
  frame : e' = { e with reports := e'.reports, ready := e'.ready, events := e'.events }

theorem isPending_iff_report {e : Execution} {j : Nat} {r : StageReport}
    (found : e.reports[j]? = some r) : e.isPending j = true ↔ IsPendingState r.state := by
  simp [isPending_iff, state?, found, IsPendingState]

theorem isSkipped_nil (e : Execution) (reason : String) : IsSkipped e reason [] e :=
  ⟨by simp, by simp, by simp, rfl⟩

theorem stageName_updateReport (e : Execution) (i j : Nat) (change : StageReport → StageReport)
    (same : ∀ r, (change r).stage = r.stage) : (e.updateReport i change).stageName j = e.stageName j := by
  rw [stageName, getElem?_updateReport, stageName]
  cases e.reports[j]? with
  | none => rfl
  | some r =>
    by_cases eq : j = i
    · simp [eq, same]
    · simp [eq]

theorem isSkipped_skipPending (e : Execution) (reason : String) (i : Nat) :
    IsSkipped e reason [i] (skipPending reason e i) := by
  by_cases pending : e.isPending i = true
  · rw [skipPending, if_pos pending]
    refine ⟨fun j => ?_, ?_, ?_, rfl⟩
    · have skipped : (skip reason { e with ready := e.ready.filter (fun j => j != i) } i).reports[j]? =
          e.reports[j]?.map (fun r =>
            if j = i then { r with state := .skipped, error := some reason } else r) :=
        getElem?_updateReport _ i j _
      rw [skipped]
      cases found : e.reports[j]? with
      | none => rfl
      | some r =>
        by_cases eq : j = i
        · subst eq
          simp [(isPending_iff_report found).mp pending]
        · simp [eq]
    · refine List.filter_congr (fun j _ => ?_)
      by_cases eq : j = i
      · simp [eq, pending]
      · simp [eq]
    · have name := stageName_updateReport { e with ready := e.ready.filter (fun j => j != i) } i i
        (fun r => { r with state := .skipped, error := some reason }) (fun _ => rfl)
      simp only [List.filter_cons, pending, if_true, List.filter_nil, List.map_cons, List.map_nil]
      simp only [skip, emit, name]
      rfl
  · rw [skipPending, if_neg pending]
    refine ⟨fun j => ?_, ?_, by simp [pending], rfl⟩
    · cases found : e.reports[j]? with
      | none => rfl
      | some r =>
        by_cases eq : j = i
        · subst eq
          have started : ¬ IsPendingState r.state := fun h =>
            pending ((isPending_iff_report found).mpr h)
          simp [started]
        · simp [eq]
    · refine (List.filter_eq_self.mpr (fun j _ => ?_)).symm
      by_cases eq : j = i
      · simp [eq, pending]
      · simp [eq]

theorem IsSkipped.cons {e e₁ e₂ : Execution} {reason : String} {i : Nat} {stages : List Nat}
    (new : i ∉ stages) (first : IsSkipped e reason [i] e₁)
    (others : IsSkipped e₁ reason stages e₂) : IsSkipped e reason (i :: stages) e₂ := by
  have sameReport (j : Nat) (ne : j ≠ i) : e₁.reports[j]? = e.reports[j]? := by
    rw [first.reports j]
    simp [ne]
  have samePending (j : Nat) (ne : j ≠ i) : e₁.isPending j = e.isPending j := by
    rw [isPending, state?, sameReport j ne, isPending, state?]
  have sameName (j : Nat) : e₁.stageName j = e.stageName j := by
    rw [stageName, first.reports j, stageName]
    cases e.reports[j]? with
    | none => rfl
    | some r => simp only [Option.map_some]; split <;> rfl
  have ne (j : Nat) (member : j ∈ stages) : j ≠ i := by
    rintro rfl
    exact new member
  refine ⟨fun j => ?_, ?_, ?_, ?_⟩
  · rw [others.reports j]
    by_cases eq : j = i
    · subst eq
      rw [first.reports j]
      cases e.reports[j]? <;> simp [new]
    · rw [sameReport j eq]
      simp [eq]
  · rw [others.ready, first.ready, List.filter_filter]
    refine List.filter_congr (fun j _ => ?_)
    by_cases eq : j = i
    · subst eq
      simp [new]
    · simp [eq, samePending j eq]
  · have same : (stages.filter e₁.isPending).map
        (fun j => Event.stageSkipped e₁.id (e₁.stageName j) reason) =
        (stages.filter e.isPending).map (fun j => .stageSkipped e.id (e.stageName j) reason) := by
      rw [List.filter_congr (fun j member => samePending j (ne j member))]
      refine List.map_congr_left (fun j _ => ?_)
      rw [sameName, first.frame]
    rw [others.events, first.events, same, List.append_assoc, ← List.map_append,
      ← List.filter_append]
    rfl
  · rw [others.frame, first.frame]

theorem isSkipped_foldl {stages : List Nat} (nodup : stages.Nodup) (e : Execution)
    (reason : String) : IsSkipped e reason stages (stages.foldl (skipPending reason) e) := by
  induction stages generalizing e with
  | nil => exact isSkipped_nil e reason
  | cons i rest ih =>
    obtain ⟨new, nodup⟩ := List.nodup_cons.mp nodup
    -- Here too no stage stands twice in the list.
    exact (isSkipped_skipPending e reason i).cons new (ih nodup _)

/-! ### Starting -/

/-- What becomes of an execution when some stages may start. -/
structure IsMarked (e : Execution) (stages : List Nat) (e' : Execution) : Prop where
  reports : ∀ j, e'.reports[j]? =
    e.reports[j]?.map (fun r => if j ∈ stages then { r with state := .ready } else r)
  ready : e'.ready = e.ready ++ stages
  frame : e' = { e with reports := e'.reports, ready := e'.ready }

theorem isMarked_foldl (stages : List Nat) (e : Execution) :
    IsMarked e stages (stages.foldl markReady e) := by
  induction stages generalizing e with
  | nil => exact ⟨by simp, by simp, rfl⟩
  | cons i rest ih =>
    have others := ih (e.markReady i)
    refine ⟨fun j => ?_, ?_, ?_⟩
    · rw [List.foldl_cons, others.reports j, markReady, getElem?_updateReport, Option.map_map]
      refine congrArg (Option.map · e.reports[j]?) (funext fun r => ?_)
      by_cases eq : j = i
      · subst eq
        simp
      · simp [eq]
    · rw [List.foldl_cons, others.ready]
      simp [markReady, updateReport]
    · rw [List.foldl_cons, others.frame]
      rfl

/-- Starting a stage takes it from the ready ones to the running ones. -/
theorem dispatch_of_ready {e : Execution} {i : Nat} {rest : List Nat} (h : e.ready = i :: rest)
    (now : Instant) : e.dispatch now =
      { e with
        ready := rest
        inFlight := e.inFlight ++ [⟨i, .dispatched ∅ 0⟩]
        reports := e.reports.modify i (fun r => { r with state := .running, startedAt := some now })
        events := e.events ++ [.stageStarted e.id (e.stageName i)] } := by
  have name := stageName_updateReport
    { e with ready := rest, inFlight := e.inFlight ++ [⟨i, .dispatched ∅ 0⟩] } i i
    (fun r => { r with state := .running, startedAt := some now }) (fun _ => rfl)
  simp only [dispatch, h, emit, name]
  rfl

/-! ### Phases -/

theorem mem_inFlight_iff {e : Execution} {i : Nat} :
    i ∈ e.inFlight.map (·.stage) ↔ ∃ phase, e.phase? i = some phase := by
  simp only [phase?, List.mem_map, Option.map_eq_some_iff]
  constructor
  · rintro ⟨f, member, rfl⟩
    have some_ : (e.inFlight.find? (fun g => g.stage == f.stage)).isSome :=
      List.find?_isSome.mpr ⟨f, member, beq_self_eq_true f.stage⟩
    obtain ⟨f', found⟩ := Option.isSome_iff_exists.mp some_
    exact ⟨f'.phase, f', found, rfl⟩
  · rintro ⟨phase, f, found, rfl⟩
    exact ⟨f, List.mem_of_find?_eq_some found, by simpa using List.find?_some found⟩

theorem phase?_eq_of_mem {e : Execution} (nodup : (e.inFlight.map (·.stage)).Nodup) {f : Flight}
    (member : f ∈ e.inFlight) : e.phase? f.stage = some f.phase := by
  obtain ⟨before, after, split⟩ := List.append_of_mem member
  rw [split, List.map_append, List.map_cons] at nodup
  have first : ∀ g ∈ before, ¬ (g.stage == f.stage) = true := by
    intro g earlier same
    have distinct := (List.nodup_append.mp nodup).2.2 g.stage (List.mem_map_of_mem earlier) f.stage
      List.mem_cons_self
    exact distinct (by simpa using same)
  rw [phase?, split, List.find?_append, List.find?_eq_none.mpr first]
  simp

theorem phase?_setPhase (e : Execution) (i j : Nat) (phase : Phase) :
    (e.setPhase i phase).phase? j =
      if j = i then (e.phase? i).map (fun _ => phase) else e.phase? j := by
  -- A new phase leaves every flight at its stage, so the search by stage meets the same flights.
  have other (f : Flight) : (if f.stage = i then (⟨i, phase⟩ : Flight) else f).stage = f.stage := by
    split
    next same => exact same.symm
    next => rfl
  have found : (e.setPhase i phase).inFlight.find? (fun f => f.stage == j) =
      (e.inFlight.find? (fun f => f.stage == j)).map
        (fun f => if f.stage = i then ⟨i, phase⟩ else f) := by
    rw [setPhase, List.find?_map]
    simp only [Function.comp_def, other]
  rw [phase?, found, phase?, phase?]
  by_cases eq : j = i
  · subst eq
    cases here : e.inFlight.find? (fun f => f.stage == j) with
    | none => simp
    | some f =>
      have same : f.stage = j := by simpa using List.find?_some here
      simp [same]
  · cases here : e.inFlight.find? (fun f => f.stage == j) with
    | none => simp [eq]
    | some f =>
      have same : f.stage = j := by simpa using List.find?_some here
      simp [same, eq]

theorem phase?_setPhase_of {e : Execution} {i : Nat} {old : Phase} (now : e.phase? i = some old)
    (new : Phase) (j : Nat) :
    (e.setPhase i new).phase? j = if j = i then some new else e.phase? j := by
  rw [phase?_setPhase, now]
  rfl

theorem phase?_dispatch {e : Execution} {i : Nat} {rest : List Nat} (queue : e.ready = i :: rest)
    (new : i ∉ e.inFlight.map (·.stage)) (now : Instant) (j : Nat) :
    (e.dispatch now).phase? j = if j = i then some (.dispatched ∅ 0) else e.phase? j := by
  rw [dispatch_of_ready queue, phase?, List.find?_append, phase?]
  by_cases eq : j = i
  · subst eq
    have none : e.inFlight.find? (fun f => f.stage == j) = none := by
      rw [List.find?_eq_none]
      intro f member same
      exact new (List.mem_map.mpr ⟨f, member, by simpa using same⟩)
    simp [none]
  · have other : ¬ i = j := fun h => eq h.symm
    simp [eq, other]

theorem phase?_of_filter {e e' : Execution} {i j : Nat}
    (phases : ∀ j, e'.phase? j = if j = i then none else e.phase? j) {p : Phase}
    (there : e'.phase? j = some p) : e.phase? j = some p := by
  rw [phases] at there
  by_cases eq : j = i
  · simp [eq] at there
  · rwa [if_neg eq] at there

theorem phase?_filter {e e' : Execution} {i : Nat}
    (left : e'.inFlight = e.inFlight.filter (fun f => f.stage != i)) (j : Nat) :
    e'.phase? j = if j = i then none else e.phase? j := by
  rw [phase?, left, List.find?_filter, phase?]
  by_cases eq : j = i
  · subst eq
    simp
  · rw [if_neg eq]
    refine congrArg (fun p => (e.inFlight.find? p).map (·.phase)) (funext fun f => ?_)
    by_cases same : f.stage = j
    · simp [same, eq]
    · simp [same]

/-! ### Settling -/

/-- What becomes of an execution when it takes note that a stage has succeeded. -/
structure IsCompleted (e : Execution) (i : Nat) (now : Instant) (outputs : List String)
    (e' : Execution) : Prop where
  reports : ∀ j, e'.reports[j]? = e.reports[j]?.map (fun r =>
    if j = i then { r with state := .done, finishedAt := some now }
    else if j ∈ e.graph.dependents i ∧ r.state = .waiting ∧ e.missing j ≤ 1 then
      { r with state := .ready }
    else r)
  missing : ∀ j, j ≠ i → e'.missing j =
    if j ∈ e.graph.dependents i ∧ e.state? j = some .waiting then e.missing j - 1 else e.missing j
  ready : e'.ready = e.ready ++ (e.graph.dependents i).filter (fun j =>
    j ≠ i ∧ e.state? j = some .waiting ∧ e.missing j ≤ 1)
  length : e'.remaining.length = e.remaining.length
  frame : e' = { e with
    reports := e'.reports
    remaining := e'.remaining
    ready := e'.ready
    inFlight := e.inFlight.filter (fun f => f.stage != i)
    events := e.events ++ [.stageCompleted e.id (e.stageName i) outputs] }

/-- What becomes of an execution when it takes note that a stage has failed. -/
structure IsFailed (e : Execution) (i : Nat) (now : Instant) (error : StageError) (e' : Execution) :
    Prop where
  reports : ∀ j, e'.reports[j]? = e.reports[j]?.map (fun r =>
    if j = i then { r with state := .failed, error := some error.message, finishedAt := some now }
    else if j ∈ e.graph.transitiveDependents i ∧ IsPendingState r.state then
      { r with state := .skipped, error := some (blockedReason (e.stageName i)) }
    else r)
  ready : e'.ready = e.ready.filter (fun j =>
    ¬ (j ≠ i ∧ j ∈ e.graph.transitiveDependents i ∧ e.isPending j = true))
  events : e'.events = e.events ++ .stageFailed e.id (e.stageName i) error.message ::
    ((e.graph.transitiveDependents i).filter (fun j => j ≠ i ∧ e.isPending j = true)).map
      (fun j => .stageSkipped e.id (e.stageName j) (blockedReason (e.stageName i)))
  frame : e' = { e with
    reports := e'.reports
    ready := e'.ready
    inFlight := e.inFlight.filter (fun f => f.stage != i)
    events := e'.events }

/-- A stage gives up its place and its report says how it ended, before others are looked at. -/
private def noted (e : Execution) (i : Nat) (now : Instant) (change : StageReport → StageReport) :
    Execution :=
  ({ e with inFlight := e.inFlight.filter (fun f => f.stage != i) }.updateReport i
    (fun r => { r with finishedAt := some now })).updateReport i change

private theorem getElem?_noted (e : Execution) (i : Nat) (now : Instant)
    (change : StageReport → StageReport) (j : Nat) : (noted e i now change).reports[j]? =
      e.reports[j]?.map (fun r => if j = i then change { r with finishedAt := some now } else r) := by
  rw [noted, getElem?_updateReport, getElem?_updateReport, Option.map_map]
  refine congrArg (Option.map · e.reports[j]?) (funext fun r => ?_)
  by_cases eq : j = i
  · simp [eq]
  · simp [eq]

private theorem stageName_noted (e : Execution) (i : Nat) (now : Instant)
    (change : StageReport → StageReport) (same : ∀ r, (change r).stage = r.stage) (j : Nat) :
    (noted e i now change).stageName j = e.stageName j := by
  rw [noted, stageName_updateReport _ _ _ _ same]
  exact stageName_updateReport _ _ _ (fun r => { r with finishedAt := some now }) (fun _ => rfl)

/-- An execution that has taken note of a success, before it turns to the stages behind. -/
def succeeded (e : Execution) (i : Nat) (now : Instant) (outputs : List String) : Execution :=
  (noted e i now (fun r => { r with state := .done })).emit
    (.stageCompleted e.id (e.stageName i) outputs)

theorem settle_of_ok {e : Execution} {i : Nat} {outputs : List String} (now : Instant)
    (ended : e.phase? i = some (.ended (.ok outputs))) :
    e.settle i now = (e.graph.dependents i).foldl release (e.succeeded i now outputs) := by
  rw [succeeded, ← stageName_noted e i now (fun r => { r with state := .done }) (fun _ => rfl) i]
  simp only [settle, ended, complete]
  rfl

theorem reports_succeeded (e : Execution) (i : Nat) (now : Instant) (outputs : List String)
    (j : Nat) : (e.succeeded i now outputs).reports[j]? = e.reports[j]?.map (fun r =>
      if j = i then { r with state := .done, finishedAt := some now } else r) :=
  getElem?_noted e i now (fun r => { r with state := .done }) j

theorem state?_succeeded {e : Execution} {i j : Nat} (ne : j ≠ i) (now : Instant)
    (outputs : List String) : (e.succeeded i now outputs).state? j = e.state? j := by
  rw [state?, reports_succeeded, state?]
  simp [ne]

theorem isCompleted_settle {e : Execution} {i : Nat} {outputs : List String} (now : Instant)
    (nodup : (e.graph.dependents i).Nodup) (ended : e.phase? i = some (.ended (.ok outputs))) :
    IsCompleted e i now outputs (e.settle i now) := by
  rw [settle_of_ok now ended]
  have reports := reports_succeeded e i now outputs
  have state (j : Nat) (ne : j ≠ i) := state?_succeeded (e := e) ne now outputs
  -- What follows needs the reports and states after the note, but not how they were written.
  generalize told : e.succeeded i now outputs = e₁ at reports state ⊢
  have missing (j : Nat) : e₁.missing j = e.missing j := by rw [← told]; rfl
  -- The stage itself is done by now; were it among its own dependents, it would not be released.
  have notWaiting : e₁.state? i ≠ some .waiting := by
    rw [state?, reports]
    cases e.reports[i]? <;> simp
  have released := isReleased_foldl nodup e₁
  refine ⟨fun j => ?_, fun j ne => ?_, ?_, ?_, ?_⟩
  · rw [released.reports, reports, missing, Option.map_map]
    refine congrArg (Option.map · e.reports[j]?) (funext fun r => ?_)
    by_cases eq : j = i
    · simp [eq]
    · simp [eq]
  · rw [released.missing, missing, state j ne]
  · rw [released.ready]
    have same : (e.graph.dependents i).filter (fun j => e₁.state? j = some .waiting ∧
        e₁.missing j ≤ 1) = (e.graph.dependents i).filter (fun j =>
          j ≠ i ∧ e.state? j = some .waiting ∧ e.missing j ≤ 1) := by
      refine List.filter_congr (fun j _ => ?_)
      by_cases eq : j = i
      · subst eq
        simp [notWaiting]
      · simp [eq, state j eq, missing]
    rw [same, ← told]
    rfl
  · rw [released.length, ← told]
    rfl
  · rw [released.frame, ← told]
    rfl

theorem isFailed_settle {e : Execution} {i : Nat} {error : StageError} (now : Instant)
    (nodup : (e.graph.transitiveDependents i).Nodup)
    (ended : e.phase? i = some (.ended (.error error))) :
    IsFailed e i now error (e.settle i now) := by
  let failed : StageReport → StageReport := fun r =>
    { r with state := .failed, error := some error.message }
  have settled : e.settle i now =
      (e.graph.transitiveDependents i).foldl (skipPending (blockedReason (e.stageName i)))
        ((noted e i now failed).emit (.stageFailed e.id (e.stageName i) error.message)) := by
    rw [← stageName_noted e i now failed (fun _ => rfl) i]
    simp only [settle, ended, fail]
    rfl
  have names (j : Nat) : ((noted e i now failed).emit
      (.stageFailed e.id (e.stageName i) error.message)).stageName j = e.stageName j :=
    stageName_noted e i now failed (fun _ => rfl) j
  rw [settled]
  generalize told :
    (noted e i now failed).emit (.stageFailed e.id (e.stageName i) error.message) = e₁ at names ⊢
  have reports (j : Nat) : e₁.reports[j]? = e.reports[j]?.map (fun r =>
      if j = i then { r with state := .failed, error := some error.message, finishedAt := some now }
      else r) := by
    rw [← told]
    exact getElem?_noted e i now failed j
  -- The failed stage is no longer pending, even if it lies behind itself.
  have pending (j : Nat) : e₁.isPending j = true ↔ j ≠ i ∧ e.isPending j = true := by
    simp only [isPending_iff, state?, reports]
    by_cases eq : j = i
    · subst eq
      cases e.reports[j]? <;> simp
    · simp [eq]
  have skipped := isSkipped_foldl nodup e₁ (blockedReason (e.stageName i))
  refine ⟨fun j => ?_, ?_, ?_, ?_⟩
  · rw [skipped.reports, reports, Option.map_map]
    refine congrArg (Option.map · e.reports[j]?) (funext fun r => ?_)
    by_cases eq : j = i
    · simp [eq, IsPendingState]
    · simp [eq]
  · rw [skipped.ready]
    have same : e₁.ready = e.ready := by rw [← told]; rfl
    rw [same]
    refine List.filter_congr (fun j _ => ?_)
    simp only [pending]
    by_cases eq : j = i <;> simp [eq]
  · rw [skipped.events]
    have same : (e.graph.transitiveDependents i).filter e₁.isPending =
        (e.graph.transitiveDependents i).filter (fun j => j ≠ i ∧ e.isPending j = true) := by
      refine List.filter_congr (fun j _ => ?_)
      rw [Bool.eq_iff_iff, pending, decide_eq_true_iff]
    simp only [same, names]
    rw [← told]
    simp [emit, noted, updateReport]
  · rw [skipped.frame, ← told]
    rfl

end Printworks.Execution
