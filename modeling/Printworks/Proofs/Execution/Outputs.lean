import Printworks.Proofs.Execution.Provenance

/-!
# What stages leave behind

In an accepted graph no two outputs go under one name, and none goes under that of an attribute. So
whatever the stages do, and whenever they do it, what a stage ends with is stored as it is: no name is
taken, and no output has to give way to another one. When the execution is over the values are those
of the seed and the outputs of the stages that are done.
-/

namespace Printworks

/-- Inputs do not fit for the violations that binding reports. -/
theorem StageSpec.bindRead_error {spec : StageSpec} {read : Dict Value} {error : StageError}
    (h : spec.bindRead read = .error error) :
    error = .contract (spec.inputs.bindValues read).violations := by
  unfold bindRead Binding.toExcept at h
  split at h
  next => cases h
  next failed =>
    cases h
    split at failed
    · cases failed
    · cases failed
      rfl

/-- An output that is missing is all that can be wrong in the end. -/
theorem Workspace.completed_error {slots : List Slot} {outputs : Dict Value} {error : StageError}
    (h : completed slots outputs = .error error) : ∃ slot ∈ slots, error = .missingOutput slot.name := by
  induction slots generalizing outputs with
  | nil => cases h
  | cons slot rest ih =>
    have later {outputs : Dict Value} (h : completed rest outputs = .error error) :
        ∃ s ∈ slot :: rest, error = .missingOutput s.name := by
      obtain ⟨s, member, same⟩ := ih h
      exact ⟨s, List.mem_cons_of_mem _ member, same⟩
    rw [completed] at h
    split at h
    next => exact later h
    next =>
      split at h
      next => exact later h
      next =>
        split at h
        next =>
          cases h
          exact ⟨slot, List.mem_cons_self, rfl⟩
        next => exact later h

namespace Conduct

variable {c : Conduct} {w : Workspace}

/-- The outputs that a stage ends with, defaults included, or the error that it fails with. -/
def outcome (c : Conduct) (w : Workspace) : Except StageError (Dict Value) :=
  match c.play w with
  | .ok w => Workspace.completed w.spec.outputs.slots w.outputs
  | .error error => .error error

/-- A stage ends with outputs that it has declared. -/
theorem outcome_declared {outputs : Dict Value} (declared : w.IsDeclared)
    (h : c.outcome w = .ok outputs) : ∀ e ∈ outputs.toList, e.1 ∈ w.spec.outputs.names := by
  unfold outcome at h
  split at h
  next played =>
    obtain ⟨same, declared⟩ := play_spec declared played
    rw [← same]
    exact Workspace.completed_declared declared h
  next => cases h

/-- A stage fails with an error of its own, or since an output is missing. -/
theorem outcome_error {error : StageError} (h : c.outcome w = .error error) :
    c.error = some error ∨ ∃ slot, error = .missingOutput slot := by
  unfold outcome at h
  split at h
  next =>
    obtain ⟨slot, -, missing⟩ := Workspace.completed_error h
    exact .inr ⟨slot.name, missing⟩
  next played =>
    cases h
    unfold play at played
    split at played
    next own =>
      cases played
      exact .inl own
    next => cases played

end Conduct

namespace Execution

variable {seed : Dict Value} {log : Nat → String → Value → Prop} {e e' : Execution} {i j : Nat}

/-! ### Storing -/

/-- What a stage ends with is stored as it is. -/
theorem IsTraced.stored_play (h : e.IsTraced seed log) (books : e.IsConsistent)
    (named : e.graph.IsNamed)
    (seeded : ∀ name, seed.contains name = true → e.graph.attributes.contains name = true)
    {w : Workspace} (workspace : e.workspace? i = some w) (conduct : Conduct) :
    stored e.context (conduct.play w) =
      match conduct.outcome w with
      | .ok outputs => (.ok (outputs.keys.map w.spec.outputName),
          { e.context with values := w.spec.keep outputs e.context.values })
      | .error error => (.error error, e.context) := by
  obtain ⟨spec, inputs, place, phase, rfl⟩ := Shift.phase?_of_workspace? workspace
  have busy := books.not_hasDelivered phase (by simp)
  rw [Conduct.outcome]
  cases played : conduct.play (Workspace.start e.id spec inputs) with
  | error error => rfl
  | ok w =>
    obtain ⟨same, declared⟩ :=
      Conduct.play_spec (Workspace.isDeclared_start e.id spec inputs) played
    have same : w.spec = spec := same
    simp only
    cases complete : Workspace.completed w.spec.outputs.slots w.outputs with
    | error error => simp only [stored, Workspace.delivery, complete]
    | ok outputs =>
      subst same
      exact stored_of_completed declared
        (fun slot member slot' member' eq =>
          (named.injective i i w.spec w.spec place place slot member slot' member' eq).2)
        (fun slot member => h.free named seeded busy place member) complete

/-! ### Success -/

/-- Whether a stage has succeeded. -/
def HasSucceeded (e : Execution) (i : Nat) : Prop :=
  (∃ names, e.phase? i = some (.ended (.ok names))) ∨ e.state? i = some .done

theorem HasSucceeded.hasDelivered (h : e.HasSucceeded i) : e.HasDelivered i := by
  rcases h with ⟨names, phase⟩ | done
  · exact .inl ⟨_, phase⟩
  · exact .inr (.inl done)

theorem not_hasSucceeded_start (id : String) (graph : Graph) (seed : Dict Value)
    (suffixes : Suffixes) (i : Nat) : ¬ (start id graph seed suffixes).HasSucceeded i := by
  rintro (⟨names, phase⟩ | done)
  · rw [phase?, start_frame] at phase
    cases phase
  · obtain ⟨r, found, same⟩ := Option.map_eq_some_iff.mp done
    rw [getElem?_reports_start] at found
    rcases pending_of_start found with other | other <;> simp [same] at other

theorem hasSucceeded_dispatch (books : e.IsConsistent) {rest : List Nat}
    (queue : e.ready = i :: rest) (now : Instant) :
    (e.dispatch now).HasSucceeded j ↔ e.HasSucceeded j := by
  have ready : e.state? i = some .ready := (books.ready i).mp (by simp [queue])
  have idle : e.phase? i = none := books.phase?_eq_none (by simp [ready])
  rw [HasSucceeded, phase?_dispatch queue (books.not_mem_inFlight queue) now,
    state?_dispatch queue now, HasSucceeded]
  by_cases eq : j = i
  · subst eq
    simp [idle, ready]
  · rw [if_neg eq, if_neg eq]

/-- A stage at work succeeds when it comes to have stored its outputs. -/
theorem hasSucceeded_setPhase (books : e.IsConsistent) {phase : Phase}
    (now : e.phase? i = some phase) (active : ∀ result, phase ≠ .ended result) (new : Phase) :
    (e.setPhase i new).HasSucceeded j ↔
      e.HasSucceeded j ∨ j = i ∧ ∃ names, new = .ended (.ok names) := by
  have before : ¬ e.HasSucceeded i :=
    fun h => books.not_hasDelivered now active h.hasDelivered
  have running := books.running now
  have states : (e.setPhase i new).state? j = e.state? j := rfl
  rw [HasSucceeded, phase?_setPhase_of now, states]
  by_cases eq : j = i
  · subst eq
    simp [before, running]
  · simp [eq, HasSucceeded]

theorem hasSucceeded_deliver (books : e.IsConsistent) {w : Workspace}
    (workspace : e.workspace? i = some w) (result : Except StageError Workspace) :
    (e.deliver i result).HasSucceeded j ↔
      e.HasSucceeded j ∨ j = i ∧ ∃ names, (stored e.context result).1 = .ok names := by
  obtain ⟨_, _, _, phase, _⟩ := Shift.phase?_of_workspace? workspace
  refine (hasSucceeded_setPhase books phase (by simp) (.ended (stored e.context result).1)).trans ?_
  simp only [Phase.ended.injEq]

theorem hasSucceeded_settle (books : e.IsConsistent) {result : Except StageError (List String)}
    (ended : e.phase? i = some (.ended result)) (now : Instant) :
    (e.settle i now).HasSucceeded j ↔ e.HasSucceeded j := by
  have running := books.running ended
  rw [HasSucceeded, phase?_filter (books.inFlight_settle ended now), HasSucceeded]
  cases result with
  | ok names =>
    have states := (isCompleted_settle now (books.sound.edges.dependents i) ended).state? running
    rw [states]
    by_cases eq : j = i
    · subst eq
      simp [ended]
    -- A stage that becomes ready was not done.
    · rw [if_neg eq, if_neg eq]
      refine or_congr_right ?_
      split
      next frees => simp [frees.2.1]
      next => exact Iff.rfl
  | error error =>
    have failed := isFailed_settle now (Graph.IsSound.nodup_transitiveDependents i) ended
    by_cases eq : j = i
    · subst eq
      simp [ended, failed.state?_self running, running]
    · rw [if_neg eq, failed.state?_iff books running (.inr (.inr rfl)) eq]

/-! ### The conclusion -/

/-- A report that is not of a success and becomes one that is not either. -/
theorem state?_updateReport_done {change : StageReport → StageReport}
    (before : e.state? i ≠ some .done) (after : ∀ r, (change r).state ≠ .done) :
    (e.updateReport i change).state? j = some .done ↔ e.state? j = some .done := by
  rw [state?, getElem?_updateReport, state?]
  by_cases eq : j = i
  · subst eq
    have never : ¬ e.reports[j]?.map (·.state) = some .done := before
    simp only [if_true, never, iff_false]
    cases e.reports[j]? with
    | none => simp
    | some r => simpa using after r
  · simp [eq]

/-- The conclusion leaves the values, and which stages are done. -/
theorem closeStage_done (cancelled : Bool) (e : Execution) (i : Nat) :
    (closeStage cancelled e i).context = e.context ∧
      ∀ j, (closeStage cancelled e i).state? j = some .done ↔ e.state? j = some .done := by
  unfold closeStage
  split
  next pending =>
    have before : e.state? i ≠ some .done := by
      rcases isPending_iff.mp pending with state | state <;> simp [state]
    exact ⟨rfl, fun j => state?_updateReport_done before (by simp)⟩
  next =>
    split
    next running =>
      exact ⟨rfl, fun j => state?_updateReport_done (by simp [running]) (by simp)⟩
    next => exact ⟨rfl, fun j => Iff.rfl⟩

theorem conclude_done (e : Execution) (signalled : Bool) :
    (e.conclude signalled).context = e.context ∧
      ∀ j, (e.conclude signalled).state? j = some .done ↔ e.state? j = some .done := by
  have closed (cancelled : Bool) (stages : List Nat) (e : Execution) :
      (stages.foldl (closeStage cancelled) e).context = e.context ∧
        ∀ j, (stages.foldl (closeStage cancelled) e).state? j = some .done ↔
          e.state? j = some .done := by
    induction stages generalizing e with
    | nil => exact ⟨rfl, fun j => Iff.rfl⟩
    | cons i rest ih =>
      obtain ⟨context, done⟩ := closeStage_done cancelled e i
      obtain ⟨context', done'⟩ := ih (closeStage cancelled e i)
      exact ⟨context'.trans context, fun j => (done' j).trans (done j)⟩
  exact closed _ _ (e.observe signalled)

end Execution

namespace Shift

variable {first s s' : Shift} {seed : Dict Value} {i : Nat} {outputs : Dict Value} {m : Move}

/-- Whether a move ends a stage with certain outputs. -/
def Ends (s : Shift) (m : Move) (i : Nat) (outputs : Dict Value) : Prop :=
  ∃ conduct w, m = .deliver i conduct ∧ s.execution.workspace? i = some w ∧
    conduct.outcome w = .ok outputs

/-- Whether one of some moves has ended a stage with certain outputs. -/
def Delivers (first : Shift) (moves : List Move) (i : Nat) (outputs : Dict Value) : Prop :=
  ∃ earlier m later, moves = earlier ++ m :: later ∧ (first.run earlier).Ends m i outputs

theorem delivers_concat {moves : List Move} :
    first.Delivers (moves ++ [m]) i outputs ↔
      first.Delivers moves i outputs ∨ (first.run moves).Ends m i outputs :=
  exists_split_concat

theorem not_delivers_nil : ¬ first.Delivers [] i outputs := by
  rintro ⟨earlier, m, later, eq, -⟩
  simp at eq

/-- A stage ends once. -/
theorem Ends.unique {a b : Dict Value} (first : s.Ends m i a) (second : s.Ends m i b) : a = b := by
  obtain ⟨conduct, w, rfl, workspace, ends⟩ := first
  obtain ⟨conduct', w', eq, workspace', ends'⟩ := second
  cases eq
  cases workspace.symm.trans workspace'
  exact Except.ok.inj (ends.symm.trans ends')

theorem Ends.not_hasSucceeded (steady : s.IsSteady) (ends : s.Ends m i outputs) :
    ¬ s.execution.HasSucceeded i := by
  obtain ⟨_, _, _, workspace, _⟩ := ends
  obtain ⟨_, _, _, phase, _⟩ := phase?_of_workspace? workspace
  exact fun h => steady.consistent.not_hasDelivered phase (by simp) h.hasDelivered

/-- Whether a shift runs an accepted graph and its values are those of the seed and of what has been
stored. -/
structure IsKept (seed : Dict Value) (log : Nat → String → Value → Prop) (s : Shift) : Prop where
  steady : s.IsSteady
  named : s.execution.graph.IsNamed
  seeded : ∀ name, seed.contains name = true → s.execution.graph.attributes.contains name = true
  traced : s.execution.IsTraced seed log

namespace IsKept

variable {log : Nat → String → Value → Prop}

theorem stored_play (h : s.IsKept seed log) {w : Workspace}
    (workspace : s.execution.workspace? i = some w) (conduct : Conduct) :
    Execution.stored s.execution.context (conduct.play w) =
      match conduct.outcome w with
      | .ok outputs => (.ok (outputs.keys.map w.spec.outputName), { s.execution.context with
          values := w.spec.keep outputs s.execution.context.values })
      | .error error => (.error error, s.execution.context) :=
  h.traced.stored_play h.steady.consistent h.named h.seeded workspace conduct

/-- A stage has succeeded when it has ended with some outputs. -/
theorem hasSucceeded_act (h : s.IsKept seed log) (m : Move) :
    (s.act m).execution.HasSucceeded i ↔
      s.execution.HasSucceeded i ∨ ∃ outputs, s.Ends m i outputs := by
  have books := h.steady.consistent
  -- Only the end of a stage can be its success.
  have quiet (other : ∀ j conduct, m ≠ .deliver j conduct) : ¬ ∃ outputs, s.Ends m i outputs := by
    rintro ⟨outputs, conduct, -, eq, -⟩
    exact other i conduct eq
  rcases s.act_cases m with ⟨cannot, same⟩ | happens
  · rw [same]
    refine (or_iff_left ?_).symm
    rintro ⟨outputs, conduct, w, rfl, workspace, -⟩
    rw [step?, workspace] at cannot
    cases cannot
  · generalize s.act m = s' at happens
    cases happens with
    | start _ can =>
      obtain ⟨-, ⟨j, rest, queue⟩, -⟩ := queue_of_canStart can
      rw [or_iff_left (quiet (by simp))]
      exact Execution.hasSucceeded_dispatch books queue _
    | acquire place _ =>
      obtain ⟨-, j, rest, queue⟩ := queue_of_canDispatch (h.steady.queueing place).2
      rw [or_iff_left (quiet (by simp))]
      exact Execution.hasSucceeded_dispatch books queue _
    | enter phase =>
      rw [or_iff_left (quiet (by simp))]
      obtain ⟨spec, new, -, proceeds, eq⟩ := books.enter_of_dispatched phase
      simp [eq, Execution.hasSucceeded_setPhase books phase, proceeds.ne_ok]
    | @deliver j conduct w workspace =>
      refine (Execution.hasSucceeded_deliver books workspace _).trans (or_congr_right ?_)
      rw [h.stored_play workspace conduct]
      constructor
      · rintro ⟨rfl, names, stored⟩
        cases ends : conduct.outcome w with
        | ok outputs => exact ⟨outputs, conduct, w, rfl, workspace, ends⟩
        | error error => simp [ends] at stored
      · rintro ⟨outputs, conduct', w', eq, workspace', ends⟩
        cases eq
        cases workspace.symm.trans workspace'
        exact ⟨rfl, _, by rw [ends]⟩
    | settle _ ended =>
      rw [or_iff_left (quiet (by simp))]
      exact Execution.hasSucceeded_settle books ended _
    | look _ | rest _ _ | wake _ _ | signal | occupy _ | supply =>
      exact (or_iff_left (quiet (by simp))).symm

/-- The outputs that a stage ends with go under different names. -/
theorem separates (h : s.IsKept seed log) {conduct : Conduct} {w : Workspace}
    (workspace : s.execution.workspace? i = some w) (ends : conduct.outcome w = .ok outputs) :
    w.spec.Separates outputs := by
  obtain ⟨spec, inputs, place, -, rfl⟩ := phase?_of_workspace? workspace
  have slots := Conduct.outcome_declared (Workspace.isDeclared_start _ spec inputs) ends
  exact fun e inside e' inside' same =>
    (h.named.injective i i spec spec place place e.1 (slots e inside) e'.1 (slots e' inside') same).2

/-- What a move stores are the outputs of the stage that it ends. -/
theorem stores_iff (h : s.IsKept seed log) {name : String} {value : Value} :
    s.Stores m i name value ↔ ∃ spec outputs slot, s.execution.graph.stages[i]? = some spec ∧
      s.Ends m i outputs ∧ outputs.get? slot = some value ∧ spec.outputName slot = name := by
  constructor
  · rintro ⟨conduct, w, names, after, rfl, workspace, stored, mine, found⟩
    rw [h.stored_play workspace conduct] at stored
    obtain ⟨spec, inputs, place, -, same⟩ := phase?_of_workspace? workspace
    cases ends : conduct.outcome w with
    | error error => simp [ends] at stored
    | ok outputs =>
      rw [ends] at stored
      cases stored
      obtain ⟨slot, there, name_⟩ :=
        (StageSpec.get?_keep_of_mem (h.separates workspace ends) mine).mp found
      exact ⟨spec, outputs, slot, place, ⟨conduct, w, rfl, workspace, ends⟩, there,
        by rwa [same] at name_⟩
  · rintro ⟨spec, outputs, slot, place, ⟨conduct, w, rfl, workspace, ends⟩, found, rfl⟩
    have same : w.spec = spec := by
      obtain ⟨spec', inputs, place', -, rfl⟩ := phase?_of_workspace? workspace
      exact Option.some.inj (place'.symm.trans place)
    have mine : spec.outputName slot ∈ outputs.keys.map w.spec.outputName :=
      same ▸ List.mem_map_of_mem (Dict.mem_keys.mpr (by rw [found]; rfl))
    refine ⟨conduct, w, outputs.keys.map w.spec.outputName, _, rfl, workspace,
      by rw [h.stored_play workspace conduct, ends], mine, ?_⟩
    exact (StageSpec.get?_keep_of_mem (h.separates workspace ends) mine).mpr
      ⟨slot, found, by rw [same]⟩

/-- An error of the shared values that a move has ended a stage with is the stage's own. -/
theorem context_error_act (h : s.IsKept seed log) {cause : ContextError}
    (ended : (s.act m).execution.phase? i = some (.ended (.error (.context cause)))) :
    s.execution.phase? i = some (.ended (.error (.context cause))) ∨
      ∃ conduct, m = .deliver i conduct ∧ conduct.error = some (.context cause) := by
  have books := h.steady.consistent
  have started {j : Nat} {rest : List Nat} (queue : s.execution.ready = j :: rest) (now : Instant)
      (ended : (s.execution.dispatch now).phase? i = some (.ended (.error (.context cause)))) :
      s.execution.phase? i = some (.ended (.error (.context cause))) := by
    rw [Execution.phase?_dispatch queue (books.not_mem_inFlight queue)] at ended
    split at ended
    next => cases ended
    next => exact ended
  rcases s.act_cases m with ⟨-, same⟩ | happens
  · exact .inl (same ▸ ended)
  · generalize s.act m = s' at happens ended
    cases happens with
    | start _ can =>
      obtain ⟨-, ⟨j, rest, queue⟩, -⟩ := queue_of_canStart can
      exact .inl (started queue _ ended)
    | acquire place _ =>
      obtain ⟨-, j, rest, queue⟩ := queue_of_canDispatch (h.steady.queueing place).2
      exact .inl (started queue _ ended)
    | @enter j read count phase =>
      obtain ⟨spec, new, -, proceeds, eq⟩ := books.enter_of_dispatched phase
      rw [eq, Execution.phase?_setPhase_of phase] at ended
      split at ended
      -- Inputs that do not fit are an error of another kind.
      next =>
        cases ended
        cases proceeds with
        | refuses _ bound => cases StageSpec.bindRead_error bound
      next => exact .inl ended
    | @deliver j conduct w workspace =>
      obtain ⟨_, _, _, phase, _⟩ := phase?_of_workspace? workspace
      have phases := Execution.phase?_setPhase_of phase
        (.ended (Execution.stored s.execution.context (conduct.play w)).1) i
      have ended := phases.symm.trans ended
      rw [h.stored_play workspace conduct] at ended
      split at ended
      next same =>
        cases outcome : conduct.outcome w with
        | ok outputs => simp [outcome] at ended
        | error error =>
          simp only [outcome, Option.some.injEq, Phase.ended.injEq, Except.error.injEq] at ended
          rcases Conduct.outcome_error (ended ▸ outcome) with own | ⟨slot, missing⟩
          · exact .inr ⟨conduct, by rw [same], own⟩
          · cases missing
      next => exact .inl ended
    | settle _ ended' =>
      exact .inl (Execution.phase?_of_filter
        (Execution.phase?_filter (books.inFlight_settle ended' _)) ended)
    | look _ | rest _ _ | wake _ _ | signal | occupy _ | supply =>
      exact .inl ended

end IsKept

/-! ### Over a whole run -/

section

variable {stages : List StageSpec} {attributes : Contract} {given : Suffixes} {graph : Graph}

theorem isKept_run (accepted : graph.Accepts stages attributes given)
    (seeded : ∀ name, seed.contains name = true → attributes.contains name = true)
    (config : ExecutorConfig) (id : String) (suffixes : Suffixes) (moves : List Move) :
    ((start config id graph seed suffixes).run moves).IsKept seed
      ((start config id graph seed suffixes).HasStored moves) := by
  have begins := isSteady_start accepted.isSound config id seed suffixes
  have sameGraph := graph_run accepted.isSound config id seed suffixes moves
  rw [← accepted.checked.sameAttributes] at seeded
  exact ⟨begins.run moves, by rw [sameGraph]; exact accepted.isNamed, by rwa [sameGraph],
    isTraced_run accepted.isSound accepted.isNamed seeded config id suffixes moves⟩

variable (accepted : graph.Accepts stages attributes given)
  (seeded : ∀ name, seed.contains name = true → attributes.contains name = true)
  (config : ExecutorConfig) (id : String) (suffixes : Suffixes) (moves : List Move)

include accepted seeded

theorem run_hasSucceeded : ((start config id graph seed suffixes).run moves).execution.HasSucceeded i ↔
    ∃ outputs, (start config id graph seed suffixes).Delivers moves i outputs := by
  induction moves using List.reverseRecOn with
  | nil =>
    have fresh := Execution.not_hasSucceeded_start id graph seed suffixes i
    exact iff_of_false fresh (fun ⟨_, before⟩ => not_delivers_nil before)
  | append_singleton moves m ih =>
    have kept := isKept_run accepted seeded config id suffixes moves
    rw [run_concat, kept.hasSucceeded_act, ih, ← exists_or]
    simp only [delivers_concat]

theorem run_delivers_unique {a b : Dict Value}
    (first : (start config id graph seed suffixes).Delivers moves i a)
    (second : (start config id graph seed suffixes).Delivers moves i b) : a = b := by
  induction moves using List.reverseRecOn with
  | nil => exact absurd first not_delivers_nil
  | append_singleton moves m ih =>
    have kept := isKept_run accepted seeded config id suffixes moves
    have once {outputs other : Dict Value}
        (before : (start config id graph seed suffixes).Delivers moves i outputs)
        (ends : ((start config id graph seed suffixes).run moves).Ends m i other) : False :=
      ends.not_hasSucceeded kept.steady
        ((run_hasSucceeded accepted seeded config id suffixes moves).mpr ⟨_, before⟩)
    rcases delivers_concat.mp first with before | ends
    · rcases delivers_concat.mp second with before' | ends'
      · exact ih before before'
      · exact (once before ends').elim
    · rcases delivers_concat.mp second with before' | ends'
      · exact (once before' ends).elim
      · exact ends.unique ends'

/-- The values at any time are those of the seed and the outputs that stages have ended with. -/
theorem run_values (name : String) (value : Value) :
    ((start config id graph seed suffixes).run moves).execution.context.values.get? name =
        some value ↔
      seed.get? name = some value ∨ ∃ i spec outputs slot, graph.stages[i]? = some spec ∧
        (start config id graph seed suffixes).Delivers moves i outputs ∧
        outputs.get? slot = some value ∧ spec.outputName slot = name := by
  have kept := isKept_run accepted seeded config id suffixes moves
  rw [kept.traced.values]
  refine or_congr_right (exists_congr (fun i => ?_))
  generalize first_ : start config id graph seed suffixes = first
  have stores (earlier : List Move) (m : Move) : (first.run earlier).Stores m i name value ↔
      ∃ spec outputs slot, graph.stages[i]? = some spec ∧ (first.run earlier).Ends m i outputs ∧
        outputs.get? slot = some value ∧ spec.outputName slot = name := by
    rw [← first_, (isKept_run accepted seeded config id suffixes earlier).stores_iff,
      graph_run accepted.isSound]
  constructor
  · rintro ⟨earlier, m, later, eq, stored⟩
    obtain ⟨spec, outputs, slot, place, ends, found⟩ := (stores earlier m).mp stored
    exact ⟨spec, outputs, slot, place, ⟨earlier, m, later, eq, ends⟩, found⟩
  · rintro ⟨spec, outputs, slot, place, ⟨earlier, m, later, eq, ends⟩, found⟩
    exact ⟨earlier, m, later, eq, (stores earlier m).mpr ⟨spec, outputs, slot, place, ends, found⟩⟩

theorem run_context_error {cause : ContextError}
    (ended : ((start config id graph seed suffixes).run moves).execution.phase? i =
      some (.ended (.error (.context cause)))) :
    ∃ conduct, .deliver i conduct ∈ moves ∧ conduct.error = some (.context cause) := by
  induction moves using List.reverseRecOn with
  | nil =>
    rw [Shift.run, List.foldl_nil, Execution.phase?, inFlight_start] at ended
    cases ended
  | append_singleton moves m ih =>
    have kept := isKept_run accepted seeded config id suffixes moves
    rw [run_concat] at ended
    rcases kept.context_error_act ended with before | ⟨conduct, rfl, own⟩
    · obtain ⟨conduct, member, own⟩ := ih before
      exact ⟨conduct, List.mem_append_left _ member, own⟩
    · exact ⟨conduct, List.mem_append_right _ List.mem_cons_self, own⟩

end

/-- What an execution that is over has left behind. -/
structure Leaves (first : Shift) (moves : List Move) (graph : Graph) (seed : Dict Value)
    (report : ExecutionReport) : Prop where
  /-- The stages that are done are those that have ended with some outputs. -/
  done : ∀ (i : Nat) r, report.stages[i]? = some r →
    (r.state = .done ↔ ∃ outputs, first.Delivers moves i outputs)
  once : ∀ i outputs outputs', first.Delivers moves i outputs → first.Delivers moves i outputs' →
    outputs = outputs'
  /-- There are the values of the seed and the outputs of the stages that are done, and no others. -/
  values : ∀ name value, report.values.get? name = some value ↔
    seed.get? name = some value ∨ ∃ (i : Nat) (r : StageReport) (spec : StageSpec)
      (outputs : Dict Value) (slot : String), report.stages[i]? = some r ∧ r.state = .done ∧
        graph.stages[i]? = some spec ∧ first.Delivers moves i outputs ∧
        outputs.get? slot = some value ∧ spec.outputName slot = name
  seed : ∀ name, seed.contains name = true → report.values.get? name = seed.get? name

theorem leaves_run {stages : List StageSpec} {attributes : Contract} {given : Suffixes}
    {graph : Graph} (accepted : graph.Accepts stages attributes given)
    (seeded : ∀ name, seed.contains name = true → attributes.contains name = true)
    (config : ExecutorConfig) (id : String) (suffixes : Suffixes) (moves : List Move)
    (finished : ((start config id graph seed suffixes).run moves).place = .finished) :
    (start config id graph seed suffixes).Leaves moves graph seed
      ((start config id graph seed suffixes).run moves).concluded.report := by
  have values := run_values accepted seeded config id suffixes moves
  have kept := isKept_run accepted seeded config id suffixes moves
  have ended := fun i => run_hasSucceeded (i := i) accepted seeded config id suffixes moves
  have sameGraph := graph_run accepted.isSound config id seed suffixes moves
  generalize (start config id graph seed suffixes).run moves = s at values kept ended finished sameGraph ⊢
  obtain ⟨context, closed⟩ := Execution.conclude_done s.execution s.signalled
  have context : s.concluded.context = s.execution.context := context
  -- Nothing runs any more, so that what has succeeded is done.
  have none : s.execution.inFlight = [] := by
    have ends := kept.steady.finished finished
    simp only [Execution.isOver, Bool.and_eq_true, List.isEmpty_iff] at ends
    exact ends.1
  have done (i : Nat) : s.concluded.state? i = some .done ↔
      ∃ outputs, (start config id graph seed suffixes).Delivers moves i outputs := by
    rw [← ended, concluded, closed, Execution.HasSucceeded, Execution.phase?, none]
    simp
  have states {i : Nat} {r : StageReport} (found : s.concluded.reports[i]? = some r) :
      s.concluded.state? i = some r.state := by
    rw [Execution.state?, found]
    rfl
  refine ⟨?_, ?_, ?_, ?_⟩
  · intro i r found
    rw [← done, states found, Option.some.injEq]
  · exact fun i outputs outputs' => run_delivers_unique accepted seeded config id suffixes moves
  · intro name value
    change s.concluded.context.values.get? name = _ ↔ _
    rw [context, values]
    refine or_congr_right (exists_congr (fun i => ?_))
    constructor
    · rintro ⟨spec, outputs, slot, place, delivers, found⟩
      obtain ⟨r, there, state⟩ := Option.map_eq_some_iff.mp ((done i).mpr ⟨outputs, delivers⟩)
      exact ⟨r, spec, outputs, slot, there, state, place, delivers, found⟩
    · rintro ⟨r, spec, outputs, slot, -, -, place, delivers, found⟩
      exact ⟨spec, outputs, slot, place, delivers, found⟩
  · intro name given_
    change s.concluded.context.values.get? name = _
    rw [context]
    refine kept.traced.get?_of_attribute kept.named (kept.seeded name given_)

/-- In an accepted graph all outputs of all stages go under different names, and none under that of
an attribute. At any time of an execution what a stage ends with is stored as it is, under the names
of its outputs: an error of the shared values is never due to a name that is taken, but one that the
stage itself has ended with, and no suffix is drawn. When the execution is over the values are those
of the seed and the outputs of the stages that are done. -/
theorem run_leaves {stages : List StageSpec} {attributes : Contract} {given : Suffixes}
    {graph : Graph} (accepted : graph.Accepts stages attributes given)
    (seeded : ∀ name, seed.contains name = true → attributes.contains name = true)
    (config : ExecutorConfig) (id : String) (suffixes : Suffixes) (moves : List Move) :
    let first := start config id graph seed suffixes
    let s := first.run moves
    (∀ (i j : Nat) (a b : StageSpec), graph.stages[i]? = some a → graph.stages[j]? = some b →
      ∀ slot ∈ a.outputs.names, ∀ slot' ∈ b.outputs.names,
        a.outputName slot = b.outputName slot' → i = j ∧ slot = slot') ∧
    (∀ (i : Nat) (spec : StageSpec), graph.stages[i]? = some spec → ∀ slot ∈ spec.outputs.names,
      attributes.contains (spec.outputName slot) = false) ∧
    (∀ i w, s.execution.workspace? i = some w → ∀ conduct : Conduct,
      Execution.stored s.execution.context (conduct.play w) =
        match conduct.outcome w with
        | .ok outputs => (.ok (outputs.keys.map w.spec.outputName), { s.execution.context with
            values := w.spec.keep outputs s.execution.context.values })
        | .error error => (.error error, s.execution.context)) ∧
    (∀ i cause, s.execution.phase? i = some (.ended (.error (.context cause))) →
      ∃ conduct, .deliver i conduct ∈ moves ∧ conduct.error = some (.context cause)) ∧
    (s.place = .finished → first.Leaves moves graph seed s.concluded.report) := by
  intro first s
  have kept := isKept_run accepted seeded config id suffixes moves
  refine ⟨accepted.isNamed.injective, ?_, ?_, ?_, ?_⟩
  · rw [← accepted.checked.sameAttributes]
    exact accepted.isNamed.notAttribute
  · exact fun i w workspace conduct => kept.stored_play workspace conduct
  · exact fun i cause ended => run_context_error accepted seeded config id suffixes moves ended
  · exact fun finished => leaves_run accepted seeded config id suffixes moves finished

/-- Two stages with notes for diagnosis, one named as an attribute and one as an output of the other
stage. -/
def clashStages : List StageSpec :=
  [⟨"draw", .ofSlots [.plain "title" .any .required],
      .ofSlots [.plain "sheet" .any .required, .plain "title" .any .internal], ∅, ∅⟩,
    ⟨"bind", .ofSlots [.plain "sheet" .any .required],
      .ofSlots [.plain "book" .any .required, .plain "sheet" .any .internal], ∅, ∅⟩]

/-- The graph of the two, in which both notes have names of their own. -/
def clash : Graph :=
  { Graph.pair with stages := [
      { clashStages[0] with outputMapping := .ofList [("title", "title_#1")] },
      { clashStages[1] with outputMapping := .ofList [("sheet", "sheet_#1")] }] }

theorem run_leaves_clash :
    let seed : Dict Value := .ofList [("title", .string "Map")]
    let first := start ⟨1⟩ "e" clash seed .numbered
    let moves : List Move := [.look, .start default, .rest, .enter 0, .enter 0,
      .deliver 0 ⟨[("sheet", .string "A1"), ("title", .string "seen")], none⟩, .settle 0 default,
      .look, .start default, .rest, .enter 1, .enter 1,
      .deliver 1 ⟨[("book", .string "Atlas"), ("sheet", .string "read")], none⟩, .settle 1 default,
      .look, .rest]
    let report := (first.run moves).concluded.report
    clash.Accepts clashStages Graph.pairAttributes .numbered ∧
      (∀ name, seed.contains name = true → Graph.pairAttributes.contains name = true) ∧
      (first.run moves).place = .finished ∧ first.Leaves moves clash seed report ∧
      report.values.toList = [("book", .string "Atlas"), ("sheet", .string "A1"),
        ("sheet_#1", .string "read"), ("title", .string "Map"), ("title_#1", .string "seen")] := by
  intro seed first moves report
  have accepted : clash.Accepts clashStages Graph.pairAttributes .numbered := ⟨_, rfl⟩
  have seeded : ∀ name, seed.contains name = true → Graph.pairAttributes.contains name = true := by
    intro name member
    have title : name ∈ ["title"] := Dict.contains_iff_mem_keys.mp member
    rw [List.mem_singleton.mp title]
    decide
  obtain ⟨-, -, -, -, leaves⟩ := run_leaves accepted seeded ⟨1⟩ "e" .numbered moves
  have finished : (first.run moves).place = .finished := by decide
  exact ⟨accepted, seeded, finished, leaves finished, by decide +kernel⟩

end Shift

end Printworks
