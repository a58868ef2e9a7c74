import Printworks.Proofs.Execution.Reading
import Printworks.Proofs.Graph.Build

/-!
# The books of an execution

Four things are kept about the stages of an execution and are changed apart from each other: their
reports, how many stages each waits for, which may start and which run. Whatever happens they agree.

The invariant is carried from one change to the next by what each change does to every stage by
itself. That nothing behind a running stage has started is not part of it: it follows, because all
that a started stage waits for is done.
-/

namespace Printworks.Execution

/-- Whether a stage has been started or may be. -/
def IsCleared (s : StageState) : Prop := s = .ready ∨ s = .running ∨ s = .done ∨ s = .failed

/-- Whether a stage is not done. -/
def isUndone (e : Execution) (i : Nat) : Bool := e.state? i != some .done

theorem isUndone_eq_false {e : Execution} {i : Nat} :
    e.isUndone i = false ↔ e.state? i = some .done := by
  simp [isUndone]

/-- The lists of those that may start and of those that run say what the reports say. -/
structure IsListed (e : Execution) : Prop where
  flights : (e.inFlight.map (·.stage)).Nodup
  inFlight : ∀ i, i ∈ e.inFlight.map (·.stage) ↔ e.state? i = some .running
  readyNodup : e.ready.Nodup
  ready : ∀ i, i ∈ e.ready ↔ e.state? i = some .ready

/-- What a stage waits for is counted, and it waits for as long as there is any. -/
structure IsCounted (e : Execution) : Prop where
  missing : ∀ i, e.state? i = some .waiting →
    e.missing i = (e.graph.predecessors i).countP e.isUndone
  waiting : ∀ i, e.state? i = some .waiting → 0 < e.missing i
  cleared : ∀ i s, e.state? i = some s → IsCleared s →
    ∀ p ∈ e.graph.predecessors i, e.state? p = some .done

/-- What is behind a stage that has failed is skipped, and nothing else. -/
structure IsBlocked (e : Execution) : Prop where
  blocked : ∀ i j, e.state? i = some .failed → e.graph.Leads i j → e.state? j = some .skipped
  skipped : ∀ j r, e.reports[j]? = some r → r.state = .skipped →
    ∃ i, e.state? i = some .failed ∧ e.graph.Leads i j ∧
      r.error = some (blockedReason (e.stageName i))

/-- What holds of an execution of a sound graph at any time. -/
structure IsConsistent (e : Execution) : Prop extends IsListed e, IsCounted e, IsBlocked e where
  sound : e.graph.IsSound
  stages : e.reports.map (·.stage) = e.graph.stageNames

namespace IsConsistent

variable {e : Execution}

theorem length (h : e.IsConsistent) : e.reports.length = e.graph.size := by
  have lengths := congrArg List.length h.stages
  rwa [List.length_map, Graph.stageNames, List.length_map] at lengths

theorem exists_state (h : e.IsConsistent) {i : Nat} :
    i < e.graph.size ↔ ∃ s, e.state? i = some s := by
  rw [← h.length]
  constructor
  · intro lt
    exact ⟨_, by rw [state?, List.getElem?_eq_getElem lt]; rfl⟩
  · rintro ⟨s, state⟩
    obtain ⟨r, found, -⟩ := Option.map_eq_some_iff.mp state
    exact (List.getElem?_eq_some_iff.mp found).1

theorem running (h : e.IsConsistent) {i : Nat} {p : Phase} (phase : e.phase? i = some p) :
    e.state? i = some .running :=
  (h.inFlight i).mp (mem_inFlight_iff.mpr ⟨p, phase⟩)

theorem phase?_eq_none (h : e.IsConsistent) {i : Nat} (idle : e.state? i ≠ some .running) :
    e.phase? i = none := by
  cases phase : e.phase? i with
  | none => rfl
  | some p => exact absurd (h.running phase) idle

/-- All that leads to a started stage is done. -/
theorem done_of_leads (h : e.IsConsistent) {i j : Nat} (path : e.graph.Leads i j) {s : StageState}
    (state : e.state? j = some s) (cleared : IsCleared s) : e.state? i = some .done := by
  induction path generalizing s with
  | single edge => exact h.cleared _ s state cleared _ edge
  | tail _ edge ih =>
    -- The last stage but one is done, and so it has been started itself.
    exact ih (h.cleared _ s state cleared _ edge) (.inr (.inr (.inl rfl)))

/-- Nothing behind a running stage has been started or may be. -/
theorem not_cleared_of_leads (h : e.IsConsistent) {i j : Nat} (running : e.state? i = some .running)
    (path : e.graph.Leads i j) {s : StageState} (state : e.state? j = some s) : ¬ IsCleared s := by
  intro cleared
  have done := h.done_of_leads path state cleared
  rw [running] at done
  cases done

end IsConsistent

/-! ### Starting -/

theorem getElem?_reports_start (id : String) (graph : Graph) (seed : Dict Value)
    (suffixes : Suffixes) (j : Nat) : (start id graph seed suffixes).reports[j]? =
      graph.stages[j]?.map (fun s =>
        ⟨s.name, if j ∈ graph.roots then .ready else .waiting, none, none, none⟩) := by
  have marked := isMarked_foldl graph.roots (.waiting id graph seed suffixes)
  refine (marked.reports j).trans ?_
  rw [Execution.waiting, List.getElem?_map, Option.map_map]
  refine congrArg (Option.map · graph.stages[j]?) (funext fun s => ?_)
  by_cases root : j ∈ graph.roots <;> simp [root, StageReport.waiting]

theorem pending_of_start {graph : Graph} {j : Nat} {r : StageReport}
    (found : graph.stages[j]?.map (fun s =>
      ⟨s.name, if j ∈ graph.roots then .ready else .waiting, none, none, none⟩) = some r) :
    r.state = .ready ∨ r.state = .waiting := by
  obtain ⟨_, -, rfl⟩ := Option.map_eq_some_iff.mp found
  by_cases root : j ∈ graph.roots <;> simp [root]

/-- What an execution has at the start besides its reports. -/
theorem start_frame (id : String) (graph : Graph) (seed : Dict Value) (suffixes : Suffixes) :
    start id graph seed suffixes =
      { id := id
        graph := graph
        context := ⟨seed, suffixes⟩
        reports := (start id graph seed suffixes).reports
        remaining := graph.predecessorLists.map List.length
        ready := graph.roots
        inFlight := []
        cancelled := false
        events := [.executionStarted id graph.size] } := by
  have marked := isMarked_foldl graph.roots (.waiting id graph seed suffixes)
  have ready : _ = graph.roots := marked.ready
  conv_lhs => rw [start, marked.frame, ready]
  rfl

/-- An execution begins with the stages ready that wait for none. -/
theorem isConsistent_start {graph : Graph} (sound : graph.IsSound) (id : String)
    (seed : Dict Value) (suffixes : Suffixes) : (start id graph seed suffixes).IsConsistent := by
  have reports := getElem?_reports_start id graph seed suffixes
  have frame := start_frame id graph seed suffixes
  generalize start id graph seed suffixes = e at reports frame ⊢
  have graph_ : e.graph = graph := by rw [frame]
  have ready : e.ready = graph.roots := by rw [frame]
  have inFlight : e.inFlight = [] := by rw [frame]
  have state (j : Nat) : e.state? j = graph.stages[j]?.map (fun _ =>
      if j ∈ graph.roots then .ready else .waiting) := by
    rw [state?, reports, Option.map_map]
    rfl
  have undone (j : Nat) : e.state? j ≠ some .done := by
    rw [state]
    cases graph.stages[j]? with
    | none => simp
    | some s => simp only [Option.map_some]; split <;> simp
  have missing (j : Nat) : e.missing j = (graph.predecessors j).length := by
    rw [Execution.missing, frame]
    simp only [Graph.predecessors, List.getD_eq_getElem?_getD, List.getElem?_map]
    cases graph.predecessorLists[j]? <;> rfl
  have waiting (i : Nat) (h : e.state? i = some .waiting) : i < graph.size ∧ i ∉ graph.roots := by
    rw [state] at h
    obtain ⟨s, found, eq⟩ := Option.map_eq_some_iff.mp h
    refine ⟨(List.getElem?_eq_some_iff.mp found).1, fun root => ?_⟩
    rw [if_pos root] at eq
    cases eq
  refine ⟨⟨?_, ?_, ?_, ?_⟩, ⟨?_, ?_, ?_⟩, ⟨?_, ?_⟩, ?_, ?_⟩
  · simp [inFlight]
  · intro i
    rw [inFlight, state]
    cases graph.stages[i]? with
    | none => simp
    | some s => simp only [Option.map_some]; split <;> simp
  · rw [ready]
    exact List.Nodup.filter _ List.nodup_range
  · intro i
    rw [ready, state]
    by_cases root : i ∈ graph.roots
    · have lt : i < graph.stages.length := (Graph.IsSound.mem_roots.mp root).1
      simp [root, lt]
    · cases graph.stages[i]? <;> simp [root]
  -- Nothing is done, so a stage misses all that it waits for.
  · intro i _
    rw [missing, graph_]
    symm
    rw [List.countP_eq_length]
    intro p _
    simpa [isUndone] using undone p
  · intro i h
    rw [missing]
    obtain ⟨lt, root⟩ := waiting i h
    exact List.length_pos_iff.mpr (fun none => root (Graph.IsSound.mem_roots.mpr ⟨lt, none⟩))
  -- Only the roots may start, and they wait for nothing.
  · intro i s found cleared p edge
    rw [graph_] at edge
    rw [state] at found
    obtain ⟨_, -, eq⟩ := Option.map_eq_some_iff.mp found
    by_cases root : i ∈ graph.roots
    · rw [(Graph.IsSound.mem_roots.mp root).2] at edge
      cases edge
    · rw [if_neg root] at eq
      subst eq
      rcases cleared with h | h | h | h <;> cases h
  · intro i j failed
    obtain ⟨r, found, state⟩ := Option.map_eq_some_iff.mp failed
    rcases pending_of_start (reports i ▸ found) with other | other <;> simp [state] at other
  · intro j r found skipped
    rcases pending_of_start (reports j ▸ found) with other | other <;> simp [skipped] at other
  · rwa [graph_]
  · rw [graph_, Graph.stageNames]
    refine List.ext_getElem? (fun j => ?_)
    rw [List.getElem?_map, reports, List.getElem?_map, Option.map_map]
    rfl

/-! ### Changes that keep states -/

/-- Whether two executions agree on all that is kept about stages. -/
structure SameBooks (e e' : Execution) : Prop where
  graph : e'.graph = e.graph
  reports : e'.reports = e.reports
  remaining : e'.remaining = e.remaining
  ready : e'.ready = e.ready
  inFlight : e'.inFlight.map (·.stage) = e.inFlight.map (·.stage)

theorem IsConsistent.of_sameBooks {e e' : Execution} (h : e.IsConsistent) (same : SameBooks e e') :
    e'.IsConsistent := by
  have state (i : Nat) : e'.state? i = e.state? i := by rw [state?, same.reports, state?]
  have name (i : Nat) : e'.stageName i = e.stageName i := by rw [stageName, same.reports, stageName]
  have count (i : Nat) : e'.missing i = e.missing i := by
    rw [Execution.missing, same.remaining, Execution.missing]
  have undone : e'.isUndone = e.isUndone := by funext i; rw [isUndone, state, isUndone]
  obtain ⟨⟨flights, inFlight, readyNodup, ready⟩, ⟨missing, waiting, cleared⟩, ⟨blocked, skipped⟩,
    sound, stages⟩ := h
  refine ⟨⟨?_, ?_, ?_, ?_⟩, ⟨?_, ?_, ?_⟩, ⟨?_, ?_⟩, ?_, ?_⟩
  · rwa [same.inFlight]
  · simpa only [same.inFlight, state] using inFlight
  · rwa [same.ready]
  · simpa only [same.ready, state] using ready
  · simpa only [state, count, same.graph, undone] using missing
  · simpa only [state, count] using waiting
  · simpa only [state, same.graph] using cleared
  · simpa only [state, same.graph] using blocked
  · simpa only [same.reports, state, same.graph, name] using skipped
  · rwa [same.graph]
  · rwa [same.reports, same.graph]

theorem sameBooks_setPhase (e : Execution) (i : Nat) (phase : Phase) :
    SameBooks e (e.setPhase i phase) := by
  refine ⟨rfl, rfl, rfl, rfl, ?_⟩
  rw [setPhase, List.map_map]
  refine List.map_congr_left (fun f _ => ?_)
  simp only [Function.comp_apply]
  split
  next eq => exact eq.symm
  next => rfl

theorem sameBooks_enter (e : Execution) (i : Nat) : SameBooks e (e.enter i) := by
  rcases e.enter_cases i with same | ⟨_, _, _, new, -, eq⟩
  · rw [same]
    exact ⟨rfl, rfl, rfl, rfl, rfl⟩
  · rw [eq]
    exact sameBooks_setPhase e i new

theorem sameBooks_deliver (e : Execution) (i : Nat) (result : Except StageError Workspace) :
    SameBooks e (e.deliver i result) := by
  have same := sameBooks_setPhase { e with context := (stored e.context result).2 } i
    (.ended (stored e.context result).1)
  exact ⟨same.graph, same.reports, same.remaining, same.ready, same.inFlight⟩

theorem sameBooks_observe (e : Execution) (signalled : Bool) : SameBooks e (e.observe signalled) :=
  ⟨rfl, rfl, rfl, rfl, rfl⟩

theorem sameBooks_supply (e : Execution) (suffixes : Suffixes) : SameBooks e (e.supply suffixes) :=
  ⟨rfl, rfl, rfl, rfl, rfl⟩

/-! ### Starting a stage -/

theorem names_of_map {e e' : Execution} {change : Nat → StageReport → StageReport}
    (reports : ∀ j : Nat, e'.reports[j]? = e.reports[j]?.map (change j))
    (same : ∀ j r, (change j r).stage = r.stage) :
    e'.reports.map (·.stage) = e.reports.map (·.stage) ∧ ∀ j, e'.stageName j = e.stageName j := by
  have each (j : Nat) : e'.reports[j]?.map (·.stage) = e.reports[j]?.map (·.stage) := by
    rw [reports, Option.map_map]
    exact congrArg (Option.map · e.reports[j]?) (funext (same j))
  constructor
  · apply List.ext_getElem?
    intro j
    rw [List.getElem?_map, List.getElem?_map]
    exact each j
  · intro j
    rw [stageName, stageName]
    exact congrArg (Option.getD · "") (each j)

section Dispatch

variable {e : Execution} {i : Nat} {rest : List Nat} (queue : e.ready = i :: rest) (now : Instant)

include queue

theorem reports_dispatch (j : Nat) : (e.dispatch now).reports[j]? = e.reports[j]?.map (fun r =>
    if j = i then { r with state := .running, startedAt := some now } else r) := by
  rw [dispatch_of_ready queue]
  exact getElem?_updateReport e i j _

theorem names_dispatch : (e.dispatch now).reports.map (·.stage) = e.reports.map (·.stage) ∧
    ∀ j, (e.dispatch now).stageName j = e.stageName j := by
  apply names_of_map (reports_dispatch queue now)
  intro j r
  split <;> rfl

theorem state?_dispatch (j : Nat) : (e.dispatch now).state? j =
    if j = i then (e.state? i).map (fun _ => .running) else e.state? j := by
  rw [state?, reports_dispatch queue]
  by_cases eq : j = i
  · subst eq
    simp [state?, Function.comp_def]
  · simp [eq, state?]

theorem isUndone_dispatch (ready : e.state? i = some .ready) :
    (e.dispatch now).isUndone = e.isUndone := by
  funext p
  rw [isUndone, state?_dispatch queue, isUndone]
  by_cases eq : p = i
  · rw [if_pos eq, eq, ready]
    rfl
  · rw [if_neg eq]

theorem IsListed.dispatch (h : e.IsListed) : (e.dispatch now).IsListed := by
  have ready : e.state? i = some .ready := (h.ready i).mp (by simp [queue])
  obtain ⟨new, nodup⟩ := List.nodup_cons.mp (queue ▸ h.readyNodup)
  have running : (e.dispatch now).inFlight.map (·.stage) = e.inFlight.map (·.stage) ++ [i] := by
    rw [dispatch_of_ready queue, List.map_append]
    rfl
  have waiting : (e.dispatch now).ready = rest := by rw [dispatch_of_ready queue]
  refine ⟨?_, ?_, ?_, ?_⟩
  -- A stage that was ready did not run.
  · have fresh : i ∉ e.inFlight.map (·.stage) := by
      rw [h.inFlight, ready]
      simp
    rw [running]
    exact List.nodup_append.mpr ⟨h.flights, by simp, by
      rintro a member b single rfl
      cases List.mem_singleton.mp single
      exact fresh member⟩
  · intro j
    rw [running, List.mem_append, h.inFlight, state?_dispatch queue]
    by_cases eq : j = i
    · simp [eq, ready]
    · simp [eq]
  · rwa [waiting]
  · intro j
    rw [waiting, state?_dispatch queue]
    by_cases eq : j = i
    · simp [eq, ready, new]
    · rw [if_neg eq, ← h.ready, queue]
      simp [eq]

theorem IsCounted.dispatch (h : e.IsCounted) (ready : e.state? i = some .ready) :
    (e.dispatch now).IsCounted := by
  have sameGraph : (e.dispatch now).graph = e.graph := by rw [dispatch_of_ready queue]
  have sameCount (j : Nat) : (e.dispatch now).missing j = e.missing j := by
    rw [dispatch_of_ready queue]
    rfl
  have waits (j : Nat) (waiting : (e.dispatch now).state? j = some .waiting) :
      e.state? j = some .waiting := by
    rw [state?_dispatch queue] at waiting
    by_cases eq : j = i
    · simp [eq, ready] at waiting
    · rwa [if_neg eq] at waiting
  refine ⟨?_, ?_, ?_⟩
  -- Starting a stage makes none done, so what was missing still is.
  · intro j waiting
    rw [sameCount, sameGraph, h.missing j (waits j waiting), isUndone_dispatch queue now ready]
  · intro j waiting
    rw [sameCount]
    exact h.waiting j (waits j waiting)
  · intro j s state cleared p edge
    rw [sameGraph] at edge
    rw [← isUndone_eq_false, isUndone_dispatch queue now ready, isUndone_eq_false]
    rw [state?_dispatch queue] at state
    by_cases eq : j = i
    -- The stage itself was cleared when it became ready.
    · subst eq
      exact h.cleared j _ ready (.inl rfl) p edge
    · rw [if_neg eq] at state
      exact h.cleared j s state cleared p edge

theorem IsBlocked.dispatch (h : e.IsBlocked) (ready : e.state? i = some .ready) :
    (e.dispatch now).IsBlocked := by
  have sameGraph : (e.dispatch now).graph = e.graph := by rw [dispatch_of_ready queue]
  have keeps (s : StageState) (other : s = .failed ∨ s = .skipped) (j : Nat) :
      (e.dispatch now).state? j = some s ↔ e.state? j = some s := by
    rw [state?_dispatch queue]
    by_cases eq : j = i
    · rcases other with rfl | rfl <;> simp [eq, ready]
    · rw [if_neg eq]
  refine ⟨?_, ?_⟩
  · intro a j failed path
    rw [sameGraph] at path
    exact (keeps .skipped (.inr rfl) j).mpr
      (h.blocked a j ((keeps .failed (.inl rfl) a).mp failed) path)
  · intro j r found skipped
    rw [reports_dispatch queue] at found
    obtain ⟨r', before, rfl⟩ := Option.map_eq_some_iff.mp found
    by_cases eq : j = i
    · rw [if_pos eq] at skipped
      cases skipped
    · rw [if_neg eq] at skipped ⊢
      obtain ⟨a, failed, path, reason⟩ := h.skipped j r' before skipped
      refine ⟨a, (keeps .failed (.inl rfl) a).mpr failed, sameGraph ▸ path, ?_⟩
      rw [(names_dispatch queue now).2]
      exact reason

end Dispatch

theorem IsConsistent.dispatch {e : Execution} (h : e.IsConsistent) (now : Instant) :
    (e.dispatch now).IsConsistent := by
  cases queue : e.ready with
  | nil =>
    have same : e.dispatch now = e := by simp only [Execution.dispatch, queue]
    rwa [same]
  | cons i rest =>
    have ready : e.state? i = some .ready := (h.ready i).mp (by simp [queue])
    have sameGraph : (e.dispatch now).graph = e.graph := by rw [dispatch_of_ready queue]
    refine ⟨h.toIsListed.dispatch queue now, h.toIsCounted.dispatch queue now ready,
      h.toIsBlocked.dispatch queue now ready, ?_, ?_⟩
    · rw [sameGraph]
      exact h.sound
    · rw [(names_dispatch queue now).1, sameGraph]
      exact h.stages

/-! ### Taking note of a success -/

theorem mem_filter_inFlight (e : Execution) (i j : Nat) :
    j ∈ (e.inFlight.filter (fun f => f.stage != i)).map (·.stage) ↔
      j ∈ e.inFlight.map (·.stage) ∧ j ≠ i := by
  simp only [List.mem_map, List.mem_filter, bne_iff_ne]
  constructor
  · rintro ⟨f, ⟨member, ne⟩, rfl⟩
    exact ⟨⟨f, member, rfl⟩, ne⟩
  · rintro ⟨⟨f, member, rfl⟩, ne⟩
    exact ⟨f, ⟨member, ne⟩, rfl⟩

namespace IsCompleted

variable {e e' : Execution} {i : Nat} {now : Instant} {outputs : List String}

theorem sameGraph (done : IsCompleted e i now outputs e') : e'.graph = e.graph := by rw [done.frame]

theorem names (done : IsCompleted e i now outputs e') :
    e'.reports.map (·.stage) = e.reports.map (·.stage) ∧ ∀ j, e'.stageName j = e.stageName j := by
  apply names_of_map done.reports
  intro j r
  split
  · rfl
  · split <;> rfl

/-- Whether a stage may start now and could not before. -/
def Frees (e : Execution) (i j : Nat) : Prop :=
  j ∈ e.graph.dependents i ∧ e.state? j = some .waiting ∧ e.missing j ≤ 1

instance (e : Execution) (i j : Nat) : Decidable (Frees e i j) := by
  unfold Frees
  infer_instance

theorem state? (done : IsCompleted e i now outputs e') (running : e.state? i = some .running)
    (j : Nat) : e'.state? j =
      if j = i then some .done else if Frees e i j then some .ready else e.state? j := by
  rw [Execution.state?, done.reports]
  by_cases eq : j = i
  · subst eq
    obtain ⟨r, found, -⟩ := Option.map_eq_some_iff.mp running
    simp [found]
  · rw [if_neg eq]
    cases found : e.reports[j]? with
    | none => simp [Frees, Execution.state?, found]
    | some r =>
      simp only [Option.map_some, if_neg eq, Frees, Execution.state?, found, Option.some.injEq]
      split <;> rfl

variable (done : IsCompleted e i now outputs e') (running : e.state? i = some .running)

include done running

theorem isUndone (p : Nat) : e'.isUndone p = (decide (p ≠ i) && e.isUndone p) := by
  rw [Execution.isUndone, done.state? running, Execution.isUndone]
  by_cases eq : p = i
  · simp [eq]
  · by_cases freed : Frees e i p
    · rw [if_neg eq, if_pos freed, freed.2.1, decide_eq_true eq]
      rfl
    · simp [eq, freed]

theorem countP (sound : e.graph.IsSound) (j : Nat) :
    (e.graph.predecessors j).countP e'.isUndone = (e.graph.predecessors j).countP e.isUndone -
      (if j ∈ e.graph.dependents i then 1 else 0) := by
  have nodup : (e.graph.predecessors j).Nodup := sound.edges.predecessors j
  rw [Graph.countP_of_except (P := e.isUndone) (i := i) nodup]
  · simp only [sound.mem_dependents]
  · simp [Execution.isUndone, running]
  · simp [done.isUndone running]
  · intro p ne
    simp [done.isUndone running, ne]

theorem isListed (h : e.IsListed) (nodup : (e.graph.dependents i).Nodup) : e'.IsListed := by
  have inFlight : e'.inFlight = e.inFlight.filter (fun f => f.stage != i) := by rw [done.frame]
  have freed (j : Nat) : j ∈ (e.graph.dependents i).filter (fun j =>
      j ≠ i ∧ e.state? j = some .waiting ∧ e.missing j ≤ 1) ↔ j ≠ i ∧ Frees e i j := by
    simp only [List.mem_filter, decide_eq_true_iff, Frees]
    tauto
  refine ⟨?_, ?_, ?_, ?_⟩
  · rw [inFlight]
    exact h.flights.sublist (List.Sublist.map _ List.filter_sublist)
  · intro j
    rw [inFlight, mem_filter_inFlight, h.inFlight, done.state? running]
    by_cases eq : j = i
    · simp [eq]
    · by_cases frees : Frees e i j
      · simp [eq, frees, frees.2.1]
      · simp [eq, frees]
  -- What becomes ready waited, so it was not in the queue.
  · rw [done.ready]
    refine List.nodup_append.mpr ⟨h.readyNodup, List.Nodup.filter _ nodup, ?_⟩
    rintro a old b new rfl
    have waiting := ((freed a).mp new).2.2.1
    rw [(h.ready a).mp old] at waiting
    cases waiting
  · intro j
    rw [done.ready, List.mem_append, h.ready, freed, done.state? running]
    by_cases eq : j = i
    · simp [eq, running]
    · by_cases frees : Frees e i j
      · simp [eq, frees]
      · simp [eq, frees]

theorem isCounted (h : e.IsCounted) (sound : e.graph.IsSound) : e'.IsCounted := by
  have waits (j : Nat) (waiting : e'.state? j = some .waiting) :
      j ≠ i ∧ ¬ Frees e i j ∧ e.state? j = some .waiting := by
    rw [done.state? running] at waiting
    by_cases eq : j = i
    · simp [eq] at waiting
    · by_cases frees : Frees e i j
      · simp [eq, frees] at waiting
      · exact ⟨eq, frees, by simpa [eq, frees] using waiting⟩
  have stays (p : Nat) (old : e.state? p = some .done) : e'.state? p = some .done := by
    rw [← isUndone_eq_false, done.isUndone running, isUndone_eq_false.mpr old, Bool.and_false]
  refine ⟨?_, ?_, ?_⟩
  -- The count falls by one exactly where the stage is one of those that are waited for.
  · intro j waiting
    obtain ⟨ne, -, old⟩ := waits j waiting
    rw [done.missing j ne, done.sameGraph, done.countP running sound, ← h.missing j old]
    by_cases member : j ∈ e.graph.dependents i
    · simp [member, old]
    · simp [member]
  · intro j waiting
    obtain ⟨ne, frees, old⟩ := waits j waiting
    have pos := h.waiting j old
    rw [done.missing j ne]
    by_cases member : j ∈ e.graph.dependents i
    -- It would have been freed if the stage had been the last one missing.
    · have more : ¬ e.missing j ≤ 1 := fun le => frees ⟨member, old, le⟩
      simp only [member, old, and_self, if_true]
      omega
    · simpa [member] using pos
  · intro j s state cleared p edge
    rw [done.sameGraph] at edge
    rw [done.state? running] at state
    by_cases eq : j = i
    · subst eq
      exact stays p (h.cleared j _ running (.inr (.inl rfl)) p edge)
    · rw [if_neg eq] at state
      by_cases frees : Frees e i j
      · -- The last one that was missing is the one that is done now.
        have none : (e.graph.predecessors j).countP e'.isUndone = 0 := by
          rw [done.countP running sound, if_pos frees.1, ← h.missing j frees.2.1]
          have le := frees.2.2
          omega
        have all := List.countP_eq_zero.mp none p edge
        rw [← isUndone_eq_false]
        simpa using all
      · rw [if_neg frees] at state
        exact stays p (h.cleared j s state cleared p edge)

theorem isBlocked (h : e.IsBlocked) : e'.IsBlocked := by
  have failed (a : Nat) : e'.state? a = some .failed ↔ e.state? a = some .failed := by
    rw [done.state? running]
    by_cases eq : a = i
    · simp [eq, running]
    · by_cases frees : Frees e i a
      · simp [eq, frees, frees.2.1]
      · simp [eq, frees]
  refine ⟨?_, ?_⟩
  -- What is skipped neither ran nor waited, so it is skipped still.
  · intro a j failed' path
    rw [done.sameGraph] at path
    have skipped := h.blocked a j ((failed a).mp failed') path
    have ne : j ≠ i := ne_of_state? skipped running (by simp)
    have kept : ¬ Frees e i j := by
      intro frees
      rw [frees.2.1] at skipped
      cases skipped
    rw [done.state? running, if_neg ne, if_neg kept, skipped]
  · intro j r found skipped
    rw [done.reports] at found
    obtain ⟨r', before, rfl⟩ := Option.map_eq_some_iff.mp found
    split at skipped
    · cases skipped
    · rename_i ne
      split at skipped
      · cases skipped
      · rename_i kept
        rw [if_neg ne, if_neg kept]
        obtain ⟨a, failed', path, reason⟩ := h.skipped j r' before skipped
        exact ⟨a, (failed a).mpr failed', done.sameGraph ▸ path, by rw [done.names.2]; exact reason⟩

theorem isConsistent (h : e.IsConsistent) : e'.IsConsistent := by
  refine ⟨done.isListed running h.toIsListed (h.sound.edges.dependents i),
    done.isCounted running h.toIsCounted h.sound, done.isBlocked running h.toIsBlocked, ?_, ?_⟩
  · rw [done.sameGraph]
    exact h.sound
  · rw [done.names.1, done.sameGraph]
    exact h.stages

end IsCompleted

/-! ### Taking note of a failure -/

namespace IsFailed

variable {e e' : Execution} {i : Nat} {now : Instant} {error : StageError}

theorem sameGraph (failed : IsFailed e i now error e') : e'.graph = e.graph := by rw [failed.frame]

theorem names (failed : IsFailed e i now error e') :
    e'.reports.map (·.stage) = e.reports.map (·.stage) ∧ ∀ j, e'.stageName j = e.stageName j := by
  apply names_of_map failed.reports
  intro j r
  split
  · rfl
  · split <;> rfl

/-- Whether a stage will not start any more and could before. -/
def Blocks (e : Execution) (i j : Nat) : Prop := e.graph.Leads i j ∧ e.isPending j = true

theorem reports_eq (failed : IsFailed e i now error e') (sound : e.graph.IsSound) {j : Nat}
    {r : StageReport} (found : e.reports[j]? = some r) (ne : j ≠ i) :
    (Blocks e i j → e'.reports[j]? = some { r with
      state := .skipped, error := some (blockedReason (e.stageName i)) }) ∧
    (¬ Blocks e i j → e'.reports[j]? = some r) := by
  have same : Blocks e i j ↔ j ∈ e.graph.transitiveDependents i ∧ IsPendingState r.state := by
    rw [Blocks, sound.mem_transitiveDependents, isPending_iff_report found]
  rw [failed.reports, found, same]
  constructor
  · intro blocks
    rw [Option.map_some, if_neg ne, if_pos blocks]
  · intro free
    rw [Option.map_some, if_neg ne, if_neg free]

theorem state?_self (failed : IsFailed e i now error e') (running : e.state? i = some .running) :
    e'.state? i = some .failed := by
  obtain ⟨r, found, -⟩ := Option.map_eq_some_iff.mp running
  simp [Execution.state?, failed.reports, found]

theorem state?_of_blocks (failed : IsFailed e i now error e') (sound : e.graph.IsSound) {j : Nat}
    (ne : j ≠ i) (blocks : Blocks e i j) : e'.state? j = some .skipped := by
  have pending := isPending_iff.mp blocks.2
  obtain ⟨r, found⟩ : ∃ r, e.reports[j]? = some r := by
    rcases pending with h | h <;> exact ⟨_, (Option.map_eq_some_iff.mp h).choose_spec.1⟩
  rw [Execution.state?, ((failed.reports_eq sound found ne).1 blocks)]
  rfl

theorem state?_of_free (failed : IsFailed e i now error e') (sound : e.graph.IsSound) {j : Nat}
    (ne : j ≠ i) (free : ¬ Blocks e i j) : e'.state? j = e.state? j := by
  cases found : e.reports[j]? with
  | none => simp [Execution.state?, failed.reports, found]
  | some r => rw [Execution.state?, (failed.reports_eq sound found ne).2 free, Execution.state?, found]

variable (failed : IsFailed e i now error e') (h : e.IsConsistent)
  (running : e.state? i = some .running)

include failed h running

/-- What could start and stands behind the stage is only waiting, so nothing ready is lost. -/
theorem state?_iff {s : StageState} (other : s = .ready ∨ s = .running ∨ s = .done) {j : Nat}
    (ne : j ≠ i) : e'.state? j = some s ↔ e.state? j = some s := by
  by_cases blocks : Blocks e i j
  · rw [failed.state?_of_blocks h.sound ne blocks]
    rcases isPending_iff.mp blocks.2 with state | state
    · rw [state]
      rcases other with rfl | rfl | rfl <;> simp
    · cases h.not_cleared_of_leads running blocks.1 state (.inl rfl)
  · rw [failed.state?_of_free h.sound ne blocks]

theorem isUndone : e'.isUndone = e.isUndone := by
  funext p
  rw [Bool.eq_iff_iff, ← not_iff_not, Bool.not_eq_true, Bool.not_eq_true, isUndone_eq_false,
    isUndone_eq_false]
  by_cases eq : p = i
  · simp [eq, failed.state?_self running, running]
  · exact failed.state?_iff h running (.inr (.inr rfl)) eq

theorem isListed : e'.IsListed := by
  have inFlight : e'.inFlight = e.inFlight.filter (fun f => f.stage != i) := by rw [failed.frame]
  refine ⟨?_, ?_, ?_, ?_⟩
  · rw [inFlight]
    exact h.flights.sublist (List.Sublist.map _ List.filter_sublist)
  · intro j
    rw [inFlight, mem_filter_inFlight, h.inFlight]
    by_cases eq : j = i
    · simp [eq, failed.state?_self running]
    · simp [eq, failed.state?_iff h running (.inr (.inl rfl)) eq]
  · rw [failed.ready]
    exact h.readyNodup.filter _
  -- Nothing behind a running stage was ready, so the filter takes out none of those that are.
  · intro j
    rw [failed.ready, List.mem_filter, h.ready, decide_eq_true_iff,
      h.sound.mem_transitiveDependents]
    by_cases eq : j = i
    · simp [eq, failed.state?_self running, running]
    · rw [failed.state?_iff h running (.inl rfl) eq]
      constructor
      · exact And.left
      · intro ready
        exact ⟨ready, fun blocks => h.not_cleared_of_leads running blocks.2.1 ready (.inl rfl)⟩

theorem isCounted : e'.IsCounted := by
  have sameCount (j : Nat) : e'.missing j = e.missing j := by
    rw [failed.frame]
    rfl
  have waits (j : Nat) (waiting : e'.state? j = some .waiting) : e.state? j = some .waiting := by
    by_cases eq : j = i
    · rw [eq, failed.state?_self running] at waiting
      cases waiting
    · by_cases blocks : Blocks e i j
      · rw [failed.state?_of_blocks h.sound eq blocks] at waiting
        cases waiting
      · rwa [failed.state?_of_free h.sound eq blocks] at waiting
  refine ⟨?_, ?_, ?_⟩
  · intro j waiting
    rw [sameCount, failed.sameGraph, h.missing j (waits j waiting), failed.isUndone h running]
  · intro j waiting
    rw [sameCount]
    exact h.waiting j (waits j waiting)
  · intro j s state cleared p edge
    rw [failed.sameGraph] at edge
    rw [← isUndone_eq_false, failed.isUndone h running, isUndone_eq_false]
    by_cases eq : j = i
    · subst eq
      exact h.cleared j _ running (.inr (.inl rfl)) p edge
    · by_cases blocks : Blocks e i j
      · rw [failed.state?_of_blocks h.sound eq blocks] at state
        cases state
        rcases cleared with h | h | h | h <;> cases h
      · rw [failed.state?_of_free h.sound eq blocks] at state
        exact h.cleared j s state cleared p edge

theorem isBlocked : e'.IsBlocked := by
  refine ⟨?_, ?_⟩
  -- Either the failure is the new one, or it is an older one, behind which all is skipped already.
  · intro a j failed' path
    rw [failed.sameGraph] at path
    by_cases eq : a = i
    · subst eq
      have ne : j ≠ a := by
        rintro rfl
        exact h.sound.not_leads_self j path
      by_cases blocks : Blocks e a j
      · exact failed.state?_of_blocks h.sound ne blocks
      · rw [failed.state?_of_free h.sound ne blocks]
        -- It is behind a running stage and cannot start any more.
        obtain ⟨s, state⟩ := h.exists_state.mp (h.sound.lt_of_leads path).2
        have kept := h.not_cleared_of_leads running path state
        have free : e.isPending j ≠ true := fun pending => blocks ⟨path, pending⟩
        rw [Ne, isPending_iff, state] at free
        cases s <;> simp_all [IsCleared]
    · have old : e.state? a = some .failed := by
        by_cases blocks : Blocks e i a
        · rw [failed.state?_of_blocks h.sound eq blocks] at failed'
          cases failed'
        · rwa [failed.state?_of_free h.sound eq blocks] at failed'
      have skipped := h.blocked a j old path
      have ne : j ≠ i := ne_of_state? skipped running (by simp)
      by_cases blocks : Blocks e i j
      · exact failed.state?_of_blocks h.sound ne blocks
      · rwa [failed.state?_of_free h.sound ne blocks]
  · intro j r' found skipped
    have ne : j ≠ i := by
      rintro rfl
      have state := failed.state?_self running
      rw [Execution.state?, found] at state
      cases state.symm.trans (congrArg some skipped)
    obtain ⟨r, before⟩ : ∃ r, e.reports[j]? = some r := by
      rw [failed.reports] at found
      exact ⟨_, (Option.map_eq_some_iff.mp found).choose_spec.1⟩
    obtain ⟨taken, left⟩ := failed.reports_eq h.sound before ne
    -- What is skipped now names this stage; what was skipped before still names a failed one.
    by_cases blocks : Blocks e i j
    · cases (found.symm.trans (taken blocks))
      exact ⟨i, failed.state?_self running, failed.sameGraph ▸ blocks.1, by rw [failed.names.2]⟩
    · cases (found.symm.trans (left blocks))
      obtain ⟨a, failed', path, reason⟩ := h.skipped j r' before skipped
      refine ⟨a, ?_, failed.sameGraph ▸ path, by rw [failed.names.2]; exact reason⟩
      have ne' : a ≠ i := ne_of_state? failed' running (by simp)
      have free : ¬ Blocks e i a := by
        intro blocks
        rcases isPending_iff.mp blocks.2 with state | state <;> simp [failed'] at state
      rwa [failed.state?_of_free h.sound ne' free]

theorem isConsistent : e'.IsConsistent := by
  refine ⟨failed.isListed h running, failed.isCounted h running, failed.isBlocked h running, ?_, ?_⟩
  · rw [failed.sameGraph]
    exact h.sound
  · rw [failed.names.1, failed.sameGraph]
    exact h.stages

end IsFailed

theorem IsConsistent.settle {e : Execution} (h : e.IsConsistent) (i : Nat) (now : Instant) :
    (e.settle i now).IsConsistent := by
  cases phase : e.phase? i with
  | none => simpa only [Execution.settle, phase] using h
  | some p =>
    have running := h.running phase
    cases p with
    | dispatched read count => simpa only [Execution.settle, phase] using h
    | working inputs => simpa only [Execution.settle, phase] using h
    | ended result =>
      cases result with
      | ok outputs =>
        exact (isCompleted_settle now (h.sound.edges.dependents i) phase).isConsistent running h
      | error error =>
        exact (isFailed_settle now (Graph.IsSound.nodup_transitiveDependents i) phase).isConsistent h
          running

/-- A stage that is about to be released has something left to wait for, so that its count does not
fall below zero. -/
theorem IsConsistent.missing_pos {e : Execution} (h : e.IsConsistent) {i d : Nat}
    {released others : List Nat} (split : e.graph.dependents i = released ++ d :: others)
    (now : Instant) (outputs : List String)
    (waiting : (released.foldl release (e.succeeded i now outputs)).state? d = some .waiting) :
    0 < (released.foldl release (e.succeeded i now outputs)).missing d := by
  have nodup : (released ++ d :: others).Nodup := split ▸ h.sound.edges.dependents i
  have fresh : d ∉ released := fun member =>
    (List.nodup_append.mp nodup).2.2 d member d List.mem_cons_self rfl
  have before := isReleased_foldl (List.nodup_append.mp nodup).1 (e.succeeded i now outputs)
  have ne : d ≠ i := by
    rintro rfl
    rw [state?, before.reports, reports_succeeded] at waiting
    cases found : e.reports[d]? <;> simp [found, fresh] at waiting
  -- Those released before it do not touch it.
  have state : e.state? d = some .waiting := by
    rw [← waiting, ← state?_succeeded ne now outputs, state?, state?, before.reports]
    simp [fresh]
  rw [before.missing, if_neg (fun both => fresh both.1)]
  exact h.waiting d state

/-! ### What runs -/

theorem IsConsistent.inFlight_settle {e : Execution} (h : e.IsConsistent) {i : Nat}
    {result : Except StageError (List String)} (ended : e.phase? i = some (.ended result))
    (now : Instant) :
    (e.settle i now).inFlight = e.inFlight.filter (fun f => f.stage != i) := by
  cases result with
  | ok outputs => rw [(isCompleted_settle now (h.sound.edges.dependents i) ended).frame]
  | error error => rw [(isFailed_settle now (Graph.IsSound.nodup_transitiveDependents i) ended).frame]

/-- Taking note of an end leaves the values, and whether the execution is cancelled. -/
theorem IsConsistent.settle_frame {e : Execution} (h : e.IsConsistent) {i : Nat}
    {result : Except StageError (List String)} (ended : e.phase? i = some (.ended result))
    (now : Instant) : ∃ reports remaining ready inFlight events, e.settle i now =
      { e with
        reports := reports
        remaining := remaining
        ready := ready
        inFlight := inFlight
        events := events } := by
  cases result with
  | ok outputs =>
    exact ⟨_, _, _, _, _, (isCompleted_settle now (h.sound.edges.dependents i) ended).frame⟩
  | error error =>
    exact ⟨_, e.remaining, _, _, _,
      (isFailed_settle now (Graph.IsSound.nodup_transitiveDependents i) ended).frame⟩

theorem IsConsistent.not_mem_inFlight {e : Execution} (h : e.IsConsistent) {i : Nat}
    {rest : List Nat} (queue : e.ready = i :: rest) : i ∉ e.inFlight.map (·.stage) := by
  have ready : e.state? i = some .ready := (h.ready i).mp (by simp [queue])
  rw [h.inFlight, ready]
  simp

/-- A stage that has been started is one of the graph, and goes on reading as it has to. -/
theorem IsConsistent.enter_of_dispatched {e : Execution} (h : e.IsConsistent) {i : Nat}
    {read : Dict Value} {count : Nat} (phase : e.phase? i = some (.dispatched read count)) :
    ∃ spec new, e.graph.stages[i]? = some spec ∧
      spec.Proceeds e.context.values read count new ∧ e.enter i = e.setPhase i new := by
  have running := h.running phase
  have inside : i < e.graph.stages.length := h.exists_state.mpr ⟨_, running⟩
  have place : e.graph.stages[i]? = some e.graph.stages[i] := List.getElem?_eq_getElem inside
  obtain ⟨new, proceeds, eq⟩ := Execution.enter_of_dispatched place phase
  exact ⟨_, new, place, proceeds, eq⟩

end Printworks.Execution
