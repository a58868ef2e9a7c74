import Printworks.Proofs.Context
import Printworks.Proofs.Execution.Moves
import Printworks.Proofs.Stage.Delivery

/-!
# What an execution tells

The events of an execution and its values agree with its reports: a stage is told of as started once
it has been and never again, after all that it waits for has been told of as completed, and what a
completed stage was told to have stored is among the values from then on.
-/

namespace Printworks

namespace Execution

variable {e e' : Execution}

/-- Whether the outputs of a stage have been stored under some names, and nothing of what was stored
has been lost since. -/
def HasStored (e : Execution) (i : Nat) (names : List String) : Prop :=
  ∃ (spec : StageSpec) (w : Workspace) (writes : List Write) (before after : Context),
    e.graph.stages[i]? = some spec ∧ w.spec = spec ∧ w.delivery = .ok writes ∧
    before.commit writes = .ok (names, after) ∧ after.values.Within e.context.values

/-- Whether a state is one of a stage that has been started. -/
def IsStarted (s : StageState) : Prop := s = .running ∨ s = .done ∨ s = .failed

instance (s : StageState) : Decidable (IsStarted s) :=
  inferInstanceAs (Decidable (s = .running ∨ s = .done ∨ s = .failed))

/-- What has been told, and what has been stored, agrees with the books. -/
structure IsTold (e : Execution) : Prop where
  stored : ∀ i names, e.phase? i = some (.ended (.ok names)) → e.HasStored i names
  done : ∀ i, e.state? i = some .done → ∃ names, e.HasStored i names ∧
    .stageCompleted e.id (e.stageName i) names ∈ e.events
  failed : ∀ i r, e.reports[i]? = some r → r.state = .failed → ∃ error : StageError,
    r.error = some error.message ∧ .stageFailed e.id (e.stageName i) error.message ∈ e.events
  started : ∀ i s, e.state? i = some s →
    e.events.count (.stageStarted e.id (e.stageName i)) = if IsStarted s then 1 else 0
  before : ∀ i, ∀ p ∈ e.graph.predecessors i, ∀ l r,
    e.events = l ++ .stageStarted e.id (e.stageName i) :: r →
      ∃ names, .stageCompleted e.id (e.stageName p) names ∈ l

/-! ### Storing -/

theorem stored_eq_ok {c after : Context} {result : Except StageError Workspace}
    {names : List String} (h : stored c result = (.ok names, after)) :
    ∃ w writes, result = .ok w ∧ w.delivery = .ok writes ∧
      c.commit writes = .ok (names, after) := by
  unfold stored at h
  split at h
  next => cases h
  next w =>
    split at h
    next => cases h
    next writes delivered =>
      split at h
      next => cases h
      next committed =>
        cases h
        exact ⟨w, writes, rfl, delivered, committed⟩

theorem stored_within (c : Context) (result : Except StageError Workspace) :
    c.values.Within (stored c result).2.values := by
  unfold stored
  split
  next => exact Dict.Within.refl _
  next =>
    split
    next => exact Dict.Within.refl _
    next =>
      split
      next refused =>
        rw [(Context.commit_refused refused).1]
        exact Dict.Within.refl _
      next committed => exact Context.commit_within committed

theorem HasStored.mono {i : Nat} {names : List String} (h : e.HasStored i names)
    (graph : e'.graph = e.graph) (more : e.context.values.Within e'.context.values) :
    e'.HasStored i names := by
  obtain ⟨spec, w, writes, before, after, found, same, delivered, committed, within⟩ := h
  exact ⟨spec, w, writes, before, after, by rwa [graph], same, delivered, committed,
    within.trans more⟩

/-! ### What is told -/

theorem IsConsistent.stageName_inj (h : e.IsConsistent) {i j : Nat} (lt : i < e.graph.size)
    (lt' : j < e.graph.size) (same : e.stageName i = e.stageName j) : i = j := by
  have nodup : (e.reports.map (·.stage)).Nodup := h.stages ▸ h.sound.names
  rw [← h.length] at lt lt'
  have name (k : Nat) (inside : k < e.reports.length) :
      (e.reports.map (·.stage))[k]? = some (e.stageName k) := by
    rw [List.getElem?_map, stageName, List.getElem?_eq_getElem inside]
    rfl
  apply (List.getElem?_inj (by simpa using lt) nodup).mp
  rw [name i lt, name j lt', same]

/-- A change after which no stage has been started that was not before. -/
structure IsQuiet (e e' : Execution) : Prop where
  id : e'.id = e.id
  graph : e'.graph = e.graph
  names : ∀ i, e'.stageName i = e.stageName i
  events : ∃ news, e'.events = e.events ++ news ∧ ∀ i, .stageStarted e.id (e.stageName i) ∉ news
  started : ∀ i s', e'.state? i = some s' → ∃ s, e.state? i = some s ∧ (IsStarted s' ↔ IsStarted s)

theorem IsQuiet.started_told (quiet : IsQuiet e e') (told : e.IsTold) (i : Nat)
    (s' : StageState) (state : e'.state? i = some s') :
    e'.events.count (.stageStarted e'.id (e'.stageName i)) = if IsStarted s' then 1 else 0 := by
  obtain ⟨s, before, same⟩ := quiet.started i s' state
  obtain ⟨news, events, silent⟩ := quiet.events
  rw [events, quiet.id, quiet.names, List.count_append, told.started i s before,
    List.count_eq_zero.mpr (silent i)]
  simp only [same, Nat.add_zero]

theorem IsQuiet.before_told (quiet : IsQuiet e e') (told : e.IsTold) (i p : Nat)
    (edge : p ∈ e'.graph.predecessors i) (l r : List Event)
    (eq : e'.events = l ++ .stageStarted e'.id (e'.stageName i) :: r) :
    ∃ names, .stageCompleted e'.id (e'.stageName p) names ∈ l := by
  obtain ⟨news, events, silent⟩ := quiet.events
  rw [events, quiet.id, quiet.names] at eq
  rw [quiet.graph] at edge
  rw [quiet.id, quiet.names]
  rcases append_eq_append_cons eq with ⟨r', old⟩ | ⟨l', -, new⟩
  · exact told.before i p edge l r' old
  · exact absurd (by rw [new]; simp) (silent i)

theorem isQuiet_of_sameBooks (same : SameBooks e e') (id : e'.id = e.id)
    (events : e'.events = e.events) : IsQuiet e e' := by
  refine ⟨id, same.graph, fun i => ?_, ⟨[], by simp [events], fun _ => List.not_mem_nil⟩, ?_⟩
  · rw [stageName, same.reports, stageName]
  · intro i s' state
    exact ⟨s', by rwa [state?, same.reports] at state, Iff.rfl⟩

theorem IsTold.of_sameBooks (told : e.IsTold) (same : SameBooks e e') (id : e'.id = e.id)
    (events : e'.events = e.events) (more : e.context.values.Within e'.context.values)
    (stored : ∀ i names, e'.phase? i = some (.ended (.ok names)) → e'.HasStored i names) :
    e'.IsTold := by
  have quiet := isQuiet_of_sameBooks same id events
  have state (i : Nat) : e'.state? i = e.state? i := by rw [state?, same.reports, state?]
  refine ⟨stored, ?_, ?_, quiet.started_told told, quiet.before_told told⟩
  · intro i done
    obtain ⟨names, kept, event⟩ := told.done i (state i ▸ done)
    exact ⟨names, kept.mono same.graph more, by rwa [id, quiet.names, events]⟩
  · intro i r found failed
    rw [same.reports] at found
    obtain ⟨error, reason, event⟩ := told.failed i r found failed
    exact ⟨error, reason, by rwa [id, quiet.names, events]⟩

theorem IsTold.setPhase (told : e.IsTold) {i : Nat} {phase : Phase}
    (stored : ∀ names, phase = .ended (.ok names) → e.HasStored i names) :
    (e.setPhase i phase).IsTold := by
  refine told.of_sameBooks (sameBooks_setPhase e i phase) rfl rfl (Dict.Within.refl _) ?_
  intro j names ended
  rw [phase?_setPhase] at ended
  by_cases eq : j = i
  · subst eq
    rw [if_pos rfl] at ended
    obtain ⟨_, -, same⟩ := Option.map_eq_some_iff.mp ended
    exact stored names same
  · rw [if_neg eq] at ended
    exact told.stored j names ended

theorem IsTold.enter (told : e.IsTold) (i : Nat) : (e.enter i).IsTold := by
  rcases e.enter_cases i with same | ⟨_, _, _, new, proceeds, eq⟩
  · rwa [same]
  · rw [eq]
    exact told.setPhase (fun names stored => (proceeds.ne_ok names stored).elim)

theorem IsTold.deliver (told : e.IsTold) {i : Nat} {w : Workspace}
    (workspace : e.workspace? i = some w) (conduct : Conduct) :
    (e.deliver i (conduct.play w)).IsTold := by
  obtain ⟨spec, inputs, found, -, here⟩ := Shift.phase?_of_workspace? workspace
  have within := stored_within e.context (conduct.play w)
  -- First what is stored grows, and then the stage has ended.
  have grown : IsTold { e with context := (Execution.stored e.context (conduct.play w)).2 } := by
    refine told.of_sameBooks ⟨rfl, rfl, rfl, rfl, rfl⟩ rfl rfl within ?_
    intro j names ended
    exact HasStored.mono (told.stored j names ended) rfl within
  refine grown.setPhase ?_
  intro names eq
  have result : Execution.stored e.context (conduct.play w) =
      (.ok names, (Execution.stored e.context (conduct.play w)).2) :=
    Prod.ext (Phase.ended.inj eq) rfl
  obtain ⟨w', writes, played, delivered, committed⟩ := stored_eq_ok result
  refine ⟨spec, w', writes, e.context, _, found, ?_, delivered, committed, Dict.Within.refl _⟩
  rw [(Conduct.play_spec (here ▸ Workspace.isDeclared_start _ _ _) played).1, here]
  rfl

theorem IsTold.dispatch (h : e.IsConsistent) (told : e.IsTold) {i : Nat} {rest : List Nat}
    (queue : e.ready = i :: rest) (now : Instant) : (e.dispatch now).IsTold := by
  have ready : e.state? i = some .ready := (h.ready i).mp (by simp [queue])
  have inside : i < e.graph.size := h.exists_state.mpr ⟨_, ready⟩
  have reports := reports_dispatch queue now
  have state := state?_dispatch queue now
  have names := (names_dispatch queue now).2
  have phase := phase?_dispatch queue (h.not_mem_inFlight queue) now
  have frame := dispatch_of_ready queue now
  generalize e.dispatch now = e' at reports state names phase frame ⊢
  have id : e'.id = e.id := by rw [frame]
  have graph : e'.graph = e.graph := by rw [frame]
  have context : e'.context = e.context := by rw [frame]
  have events : e'.events = e.events ++ [.stageStarted e.id (e.stageName i)] := by rw [frame]
  have kept {j : Nat} {names : List String} (stored : e.HasStored j names) : e'.HasStored j names :=
    stored.mono graph (context ▸ Dict.Within.refl _)
  have started := told.started i _ ready
  refine ⟨?_, ?_, ?_, ?_, ?_⟩
  · intro j names ended
    rw [phase] at ended
    by_cases eq : j = i
    · simp [eq] at ended
    · rw [if_neg eq] at ended
      exact kept (told.stored j names ended)
  · intro j done
    rw [state] at done
    by_cases eq : j = i
    · simp [eq, ready] at done
    · rw [if_neg eq] at done
      obtain ⟨outputs, stored, event⟩ := told.done j done
      exact ⟨outputs, kept stored, by rw [id, names, events]; exact List.mem_append_left _ event⟩
  · intro j r found failed
    rw [reports] at found
    obtain ⟨r', before, rfl⟩ := Option.map_eq_some_iff.mp found
    by_cases eq : j = i
    · simp [eq] at failed
    · rw [if_neg eq] at failed ⊢
      obtain ⟨error, reason, event⟩ := told.failed j r' before failed
      exact ⟨error, reason, by rw [id, names, events]; exact List.mem_append_left _ event⟩
  -- The stage that starts has not been told of as started before, since it was ready.
  · intro j s' after
    rw [state] at after
    rw [id, names, events, List.count_append]
    by_cases eq : j = i
    · subst eq
      rw [if_pos rfl, ready] at after
      cases after
      simp [started, IsStarted]
    · rw [if_neg eq] at after
      have other : ¬ e.stageName i = e.stageName j := fun same =>
        eq (h.stageName_inj (h.exists_state.mpr ⟨_, after⟩) inside same.symm)
      rw [told.started j s' after]
      simp [other]
  · intro j p edge l r eq
    rw [graph] at edge
    rw [id, names, events] at eq
    rw [id, names]
    rcases append_eq_append_cons eq with ⟨r', old⟩ | ⟨l', rfl, new⟩
    · exact told.before j p edge l r' old
    · -- It is told of now, so it is the one that starts, and all that it waits for is done.
      have same : e.stageName j = e.stageName i := by
        have member : Event.stageStarted e.id (e.stageName j) ∈
            [Event.stageStarted e.id (e.stageName i)] := by rw [new]; simp
        simpa using member
      have this : j = i := h.stageName_inj (h.sound.lt_of_mem_predecessors edge).2 inside same
      subst this
      have done := h.cleared j _ ready (.inl rfl) p edge
      obtain ⟨outputs, -, event⟩ := told.done p done
      exact ⟨outputs, List.mem_append_left _ event⟩

theorem IsCompleted.isQuiet {i : Nat} {now : Instant} {outputs : List String}
    (done : IsCompleted e i now outputs e') (running : e.state? i = some .running) :
    IsQuiet e e' := by
  refine ⟨by rw [done.frame], done.sameGraph, done.names.2,
    ⟨[.stageCompleted e.id (e.stageName i) outputs], by rw [done.frame], by simp⟩, ?_⟩
  intro j s' state
  rw [done.state? running] at state
  by_cases eq : j = i
  · subst eq
    rw [if_pos rfl] at state
    cases state
    exact ⟨_, running, by simp [IsStarted]⟩
  · rw [if_neg eq] at state
    by_cases frees : Frees e i j
    -- A stage that becomes ready was waiting, and neither of the two has been started.
    · rw [if_pos frees] at state
      cases state
      exact ⟨_, frees.2.1, by simp [IsStarted]⟩
    · rw [if_neg frees] at state
      exact ⟨s', state, Iff.rfl⟩

theorem IsCompleted.isTold {i : Nat} {now : Instant} {outputs : List String}
    (done : IsCompleted e i now outputs e') (running : e.state? i = some .running)
    (ended : e.phase? i = some (.ended (.ok outputs))) (told : e.IsTold) : e'.IsTold := by
  have context : e'.context = e.context := by rw [done.frame]
  have id : e'.id = e.id := by rw [done.frame]
  have events : e'.events = e.events ++ [.stageCompleted e.id (e.stageName i) outputs] := by
    rw [done.frame]
  have left : e'.inFlight = e.inFlight.filter (fun f => f.stage != i) := by rw [done.frame]
  have phases := phase?_filter left
  have kept {j : Nat} {names : List String} (stored : e.HasStored j names) : e'.HasStored j names :=
    stored.mono done.sameGraph (context ▸ Dict.Within.refl _)
  have quiet := done.isQuiet running
  refine ⟨?_, ?_, ?_, quiet.started_told told, quiet.before_told told⟩
  · intro j names there
    exact kept (told.stored j names (phase?_of_filter phases there))
  · intro j state
    rw [id, done.names.2, events]
    rw [done.state? running] at state
    by_cases eq : j = i
    -- What it has stored was known when it ended, and is told of now.
    · subst eq
      exact ⟨outputs, kept (told.stored j outputs ended), by simp⟩
    · rw [if_neg eq] at state
      by_cases frees : Frees e i j
      · rw [if_pos frees] at state
        cases state
      · rw [if_neg frees] at state
        obtain ⟨names, stored, event⟩ := told.done j state
        exact ⟨names, kept stored, List.mem_append_left _ event⟩
  · intro j r found failed
    rw [id, done.names.2, events]
    rw [done.reports] at found
    obtain ⟨r', before, rfl⟩ := Option.map_eq_some_iff.mp found
    split at failed
    next => cases failed
    next ne =>
      split at failed
      next => cases failed
      next free =>
        rw [if_neg ne, if_neg free]
        obtain ⟨error, reason, event⟩ := told.failed j r' before failed
        exact ⟨error, reason, List.mem_append_left _ event⟩

theorem IsFailed.isQuiet {i : Nat} {now : Instant} {error : StageError}
    (failed : IsFailed e i now error e') (sound : e.graph.IsSound)
    (running : e.state? i = some .running) : IsQuiet e e' := by
  refine ⟨by rw [failed.frame], failed.sameGraph, failed.names.2,
    ⟨_, failed.events, by simp⟩, ?_⟩
  intro j s' state
  by_cases eq : j = i
  · rw [eq, failed.state?_self running] at state
    cases state
    exact ⟨_, eq ▸ running, by simp [IsStarted]⟩
  · by_cases blocks : Blocks e i j
    · rw [failed.state?_of_blocks sound eq blocks] at state
      cases state
      rcases isPending_iff.mp blocks.2 with old | old <;> exact ⟨_, old, by simp [IsStarted]⟩
    · rw [failed.state?_of_free sound eq blocks] at state
      exact ⟨s', state, Iff.rfl⟩

theorem IsFailed.isTold {i : Nat} {now : Instant} {error : StageError}
    (failed : IsFailed e i now error e') (h : e.IsConsistent)
    (running : e.state? i = some .running) (told : e.IsTold) : e'.IsTold := by
  have context : e'.context = e.context := by rw [failed.frame]
  have id : e'.id = e.id := by rw [failed.frame]
  have left : e'.inFlight = e.inFlight.filter (fun f => f.stage != i) := by rw [failed.frame]
  have phases := phase?_filter left
  have kept {j : Nat} {names : List String} (stored : e.HasStored j names) : e'.HasStored j names :=
    stored.mono failed.sameGraph (context ▸ Dict.Within.refl _)
  have quiet := failed.isQuiet h.sound running
  refine ⟨?_, ?_, ?_, quiet.started_told told, quiet.before_told told⟩
  · intro j names there
    exact kept (told.stored j names (phase?_of_filter phases there))
  · intro j state
    rw [id, failed.names.2, failed.events]
    have ne : j ≠ i := ne_of_state? state (failed.state?_self running) (by simp)
    obtain ⟨names, stored, event⟩ := told.done j
      ((failed.state?_iff h running (.inr (.inr rfl)) ne).mp state)
    exact ⟨names, kept stored, List.mem_append_left _ event⟩
  · intro j r found state
    rw [id, failed.names.2, failed.events]
    rw [failed.reports] at found
    obtain ⟨r', before, rfl⟩ := Option.map_eq_some_iff.mp found
    split at state
    next eq =>
      subst eq
      exact ⟨error, by rw [if_pos rfl], by simp⟩
    next ne =>
      split at state
      next => cases state
      next free =>
        rw [if_neg ne, if_neg free]
        obtain ⟨error', reason, event⟩ := told.failed j r' before state
        exact ⟨error', reason, List.mem_append_left _ event⟩

theorem IsTold.settle (h : e.IsConsistent) (told : e.IsTold) {i : Nat}
    {result : Except StageError (List String)} (ended : e.phase? i = some (.ended result))
    (now : Instant) : (e.settle i now).IsTold := by
  have running := h.running ended
  cases result with
  | ok outputs =>
    exact (isCompleted_settle now (h.sound.edges.dependents i) ended).isTold running ended told
  | error error =>
    exact (isFailed_settle now (Graph.IsSound.nodup_transitiveDependents i) ended).isTold h running
      told

theorem IsTold.change (h : e.IsConsistent) (told : e.IsTold) (change : e.Change e') : e'.IsTold := by
  cases change with
  | observe signalled =>
    exact told.of_sameBooks (sameBooks_observe e signalled) rfl rfl (Dict.Within.refl _) told.stored
  | dispatch queue _ now => exact told.dispatch h queue now
  | enter _ => exact told.enter _
  | deliver workspace conduct => exact told.deliver workspace conduct
  | settle ended now => exact told.settle h ended now
  | supply suffixes =>
    exact told.of_sameBooks (sameBooks_supply e suffixes) rfl rfl (Dict.Within.refl _) told.stored

theorem isTold_start (id : String) (graph : Graph) (seed : Dict Value) (suffixes : Suffixes) :
    (start id graph seed suffixes).IsTold := by
  have reports := getElem?_reports_start id graph seed suffixes
  have frame := start_frame id graph seed suffixes
  generalize start id graph seed suffixes = e at reports frame ⊢
  have events : e.events = [.executionStarted id graph.size] := by rw [frame]
  have fresh (i : Nat) (s : StageState) (state : e.state? i = some s) : s = .ready ∨ s = .waiting := by
    obtain ⟨r, found, rfl⟩ := Option.map_eq_some_iff.mp state
    exact pending_of_start (reports i ▸ found)
  refine ⟨?_, ?_, ?_, ?_, ?_⟩
  · intro i names ended
    rw [phase?, show e.inFlight = [] by rw [frame]] at ended
    cases ended
  · intro i state
    rcases fresh i _ state with h | h <;> cases h
  · intro i r found failed
    rcases fresh i r.state (by rw [state?, found]; rfl) with h | h <;> simp [failed] at h
  · intro i s state
    rw [events]
    rcases fresh i s state with rfl | rfl <;> simp [IsStarted]
  · intro i p _ l r eq
    rw [events] at eq
    have member : Event.stageStarted e.id (e.stageName i) ∈
        [Event.executionStarted id graph.size] := by rw [eq]; simp
    simp at member

end Execution

/-- What is told of an execution is true after any moves. -/
theorem Shift.isTold_run {graph : Graph} (sound : graph.IsSound) (config : ExecutorConfig)
    (id : String) (seed : Dict Value) (suffixes : Suffixes) (moves : List Move) :
    ((Shift.start config id graph seed suffixes).run moves).execution.IsTold :=
  (Shift.isSteady_start sound config id seed suffixes).run_execution
    (Execution.isTold_start id graph seed suffixes) (fun h told change => told.change h change) moves

end Printworks
