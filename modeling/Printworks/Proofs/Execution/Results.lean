import Printworks.Proofs.Execution.Account

/-!
# How stages come to their results

A stage that has ended has been ended by one of two moves: it found that what it has read does not fit
its contract, or it delivered. What is reported of it later is what that move made of it, and what it
has stored then is among the values from then on.
-/

namespace Printworks

/-- Whether a move gives a stage its result. -/
inductive Shift.Yields (s : Shift) (i : Nat) : Move → Except StageError (List String) → Prop
  | refused {spec : StageSpec} {read : Dict Value} {count : Nat} {error : StageError}
      (phase : s.execution.phase? i = some (.dispatched read count))
      (place : s.execution.graph.stages[i]? = some spec) (all : spec.inputs.slots[count]? = none)
      (bound : spec.bindRead read = .error error) :
      Yields s i (.enter i) (.error error)
  | delivered {w : Workspace} (workspace : s.execution.workspace? i = some w) (conduct : Conduct) :
      Yields s i (.deliver i conduct) (Execution.stored s.execution.context (conduct.play w)).1

/-- Whether one of some moves has given a stage its result. -/
def Shift.HasYielded (first : Shift) (moves : List Move) (i : Nat)
    (result : Except StageError (List String)) : Prop :=
  ∃ earlier m later, moves = earlier ++ m :: later ∧ (first.run earlier).Yields i m result

namespace Execution

variable {log log' : Nat → Except StageError (List String) → Prop} {e e' : Execution} {i : Nat}

/-- Whether the stages that have ended have come to results that are on record, and whether what is
reported of those that are done or have failed is what they have come to. -/
structure IsGrounded (log : Nat → Except StageError (List String) → Prop) (e : Execution) : Prop where
  ended : ∀ i result, e.phase? i = some (.ended result) → log i result
  done : ∀ i, e.state? i = some .done → ∃ names, log i (.ok names)
  failed : ∀ i r, e.reports[i]? = some r → r.state = .failed →
    ∃ error : StageError, r.error = some error.message ∧ log i (.error error)

namespace IsGrounded

theorem mono (h : e.IsGrounded log) (more : ∀ i result, log i result → log' i result) :
    e.IsGrounded log' := by
  refine ⟨?_, ?_, ?_⟩
  · exact fun i result ended => more i result (h.ended i result ended)
  · intro i done
    obtain ⟨names, known⟩ := h.done i done
    exact ⟨names, more i _ known⟩
  · intro i r found failed
    obtain ⟨error, reason, known⟩ := h.failed i r found failed
    exact ⟨error, reason, more i _ known⟩

/-- A change of the books in which no stage comes to a result. -/
theorem of_reports (h : e.IsGrounded log) (reports : e'.reports = e.reports)
    (ended : ∀ i result, e'.phase? i = some (.ended result) → log i result) :
    e'.IsGrounded log := by
  refine ⟨ended, ?_, ?_⟩
  · intro i done
    apply h.done i
    rwa [state?, reports] at done
  · intro i r found
    apply h.failed i r
    rwa [reports] at found

/-- A stage may come to a result that is on record. -/
theorem setPhase (h : e.IsGrounded log) {phase new : Phase} (now : e.phase? i = some phase)
    (known : ∀ result, new = .ended result → log i result) :
    (e.setPhase i new).IsGrounded log := by
  refine h.of_reports rfl ?_
  intro j result ended
  rw [phase?_setPhase_of now] at ended
  split at ended
  next same =>
    rw [same]
    exact known result (Option.some.inj ended)
  next => exact h.ended j result ended

theorem dispatch (h : e.IsGrounded log) (books : e.IsConsistent) {rest : List Nat}
    (queue : e.ready = i :: rest) (now : Instant) : (e.dispatch now).IsGrounded log := by
  refine ⟨?_, ?_, ?_⟩
  · intro j result ended
    rw [phase?_dispatch queue (books.not_mem_inFlight queue)] at ended
    split at ended
    next => cases ended
    next => exact h.ended j result ended
  · intro j done
    rw [state?_dispatch queue] at done
    split at done
    next =>
      have ready : e.state? i = some .ready := (books.ready i).mp (by simp [queue])
      rw [ready] at done
      cases done
    next => exact h.done j done
  · intro j r found failed
    rw [reports_dispatch queue] at found
    obtain ⟨r', before, rfl⟩ := Option.map_eq_some_iff.mp found
    split at failed
    next => cases failed
    next other =>
      rw [if_neg other]
      exact h.failed j r' before failed

/-- What is taken note of is the result that a stage has come to. -/
theorem settle (h : e.IsGrounded log) (books : e.IsConsistent)
    {result : Except StageError (List String)} (ended : e.phase? i = some (.ended result))
    (now : Instant) : (e.settle i now).IsGrounded log := by
  have running := books.running ended
  have mine := h.ended i result ended
  have phases := phase?_filter (books.inFlight_settle ended now)
  have left : ∀ j other, (e.settle i now).phase? j = some (.ended other) → log j other :=
    fun j other there => h.ended j other (phase?_of_filter phases there)
  -- Only the stage itself comes to be done or failed; others come to be ready or skipped.
  cases result with
  | ok names =>
    have done := isCompleted_settle now (books.sound.edges.dependents i) ended
    refine ⟨left, ?_, ?_⟩
    · intro j state
      rw [done.state? running] at state
      split at state
      next same => exact ⟨names, same ▸ mine⟩
      next =>
        split at state
        next => cases state
        next => exact h.done j state
    · intro j r found failed
      rw [done.reports] at found
      obtain ⟨r', before, rfl⟩ := Option.map_eq_some_iff.mp found
      split at failed
      next => cases failed
      next other =>
        split at failed
        next => cases failed
        next free =>
          rw [if_neg other, if_neg free]
          exact h.failed j r' before failed
  | error error =>
    have failed := isFailed_settle now (Graph.IsSound.nodup_transitiveDependents i) ended
    refine ⟨left, ?_, ?_⟩
    · intro j state
      have other : j ≠ i := ne_of_state? state (failed.state?_self running) (by simp)
      exact h.done j ((failed.state?_iff books running (.inr (.inr rfl)) other).mp state)
    · intro j r found state
      rw [failed.reports] at found
      obtain ⟨r', before, rfl⟩ := Option.map_eq_some_iff.mp found
      split at state
      next same =>
        rw [if_pos same]
        exact ⟨error, rfl, same ▸ mine⟩
      next other =>
        split at state
        next => cases state
        next free =>
          rw [if_neg other, if_neg free]
          exact h.failed j r' before state

end IsGrounded

/-- Values are never taken away or changed. -/
theorem IsConsistent.values_within (books : e.IsConsistent) (change : e.Change e') :
    e.context.values.Within e'.context.values := by
  cases change with
  | observe signalled => exact Dict.Within.refl _
  | dispatch queue _ now =>
    rw [dispatch_of_ready queue]
    exact Dict.Within.refl _
  | enter _ =>
    rw [enter_frame]
    exact Dict.Within.refl _
  | deliver _ conduct => exact stored_within e.context _
  | settle ended now =>
    obtain ⟨_, _, _, _, _, frame⟩ := books.settle_frame ended now
    rw [frame]
    exact Dict.Within.refl _
  | supply suffixes => exact Dict.Within.refl _

end Execution

namespace Shift

variable {first s s' : Shift} {m : Move} {moves : List Move} {i : Nat}
  {result : Except StageError (List String)}

theorem hasYielded_concat : first.HasYielded (moves ++ [m]) i result ↔
    first.HasYielded moves i result ∨ (first.run moves).Yields i m result :=
  exists_split_concat

/-- Each move adds the result that it gives to a stage. -/
theorem isGrounded_act {log : Nat → Except StageError (List String) → Prop} (steady : s.IsSteady)
    (h : s.execution.IsGrounded log) (m : Move) :
    (s.act m).execution.IsGrounded (fun i result => log i result ∨ s.Yields i m result) := by
  have books := steady.consistent
  have kept : s.execution.IsGrounded (fun i result => log i result ∨ s.Yields i m result) :=
    h.mono (fun _ _ known => .inl known)
  rcases s.act_cases m with ⟨-, same⟩ | happens
  · rwa [same]
  · generalize s.act m = s' at happens
    cases happens with
    | start _ can =>
      obtain ⟨-, ⟨j, rest, queue⟩, -⟩ := queue_of_canStart can
      exact kept.dispatch books queue _
    | acquire place _ =>
      obtain ⟨-, j, rest, queue⟩ := queue_of_canDispatch (steady.queueing place).2
      exact kept.dispatch books queue _
    | @enter j read count phase =>
      obtain ⟨spec, new, place, proceeds, eq⟩ := books.enter_of_dispatched phase
      change (s.execution.enter j).IsGrounded _
      rw [eq]
      apply kept.setPhase phase
      rintro result rfl
      cases proceeds with
      | refuses all bound => exact .inr (.refused phase place all bound)
    | @deliver j conduct w workspace =>
      obtain ⟨_, _, _, phase, _⟩ := phase?_of_workspace? workspace
      -- What is stored changes no report and no phase.
      have grown : Execution.IsGrounded _ { s.execution with
          context := (Execution.stored s.execution.context (conduct.play w)).2 } :=
        kept.of_reports rfl kept.ended
      apply grown.setPhase phase
      intro result ended
      cases ended
      exact .inr (.delivered workspace conduct)
    | settle _ ended => exact kept.settle books ended _
    | look _ | supply => exact kept.of_reports rfl kept.ended
    | rest _ _ | wake _ _ | signal | occupy _ => exact kept

/-- What is reported of a stage that has ended is the result that one of the moves gave it. -/
theorem isGrounded_run {graph : Graph} (sound : graph.IsSound) (config : ExecutorConfig)
    (id : String) (seed : Dict Value) (suffixes : Suffixes) (moves : List Move) :
    ((start config id graph seed suffixes).run moves).execution.IsGrounded
      ((start config id graph seed suffixes).HasYielded moves) := by
  have steady := isSteady_start sound config id seed suffixes
  induction moves using List.reverseRecOn with
  | nil =>
    have fresh {i : Nat} {r : StageReport}
        (found : (Execution.start id graph seed suffixes).reports[i]? = some r) :
        r.state = .ready ∨ r.state = .waiting := by
      rw [Execution.getElem?_reports_start] at found
      exact Execution.pending_of_start found
    refine ⟨?_, ?_, ?_⟩
    · intro i result ended
      rw [Shift.run, List.foldl_nil, Execution.phase?, inFlight_start] at ended
      cases ended
    · intro i done
      obtain ⟨r, found, state⟩ := Option.map_eq_some_iff.mp done
      rcases fresh found with pending | pending <;> simp [state] at pending
    · intro i r found failed
      rcases fresh found with pending | pending <;> simp [failed] at pending
  | append_singleton moves m ih =>
    rw [run_concat]
    apply (isGrounded_act (steady.run moves) ih m).mono
    exact fun i result known => hasYielded_concat.mpr known

theorem IsSteady.run_within (h : s.IsSteady) (moves : List Move) :
    s.execution.context.values.Within (s.run moves).execution.context.values :=
  h.run_execution (P := fun e => s.execution.context.values.Within e.context.values)
    (Dict.Within.refl _) (fun books within change => within.trans (books.values_within change)) moves

theorem run_append (s : Shift) (moves more : List Move) :
    s.run (moves ++ more) = (s.run moves).run more :=
  List.foldl_append

/-- A stage that has come to store something has delivered, and what it has stored is still there. -/
theorem HasYielded.stored {names : List String} (steady : first.IsSteady)
    (h : first.HasYielded moves i (.ok names)) :
    ∃ earlier conduct later w after, moves = earlier ++ .deliver i conduct :: later ∧
      (first.run earlier).execution.workspace? i = some w ∧
      Execution.stored (first.run earlier).execution.context (conduct.play w) = (.ok names, after) ∧
      after.values.Within (first.run moves).execution.context.values := by
  obtain ⟨earlier, m, later, rfl, yields⟩ := h
  generalize eq : (.ok names : Except StageError (List String)) = result at yields
  cases yields with
  | refused => cases eq
  | @delivered w workspace conduct =>
    refine ⟨earlier, conduct, later, w, _, rfl, workspace, rfl, ?_⟩
    have acted : ((first.run earlier).act (.deliver i conduct)).execution =
        (first.run earlier).execution.deliver i (conduct.play w) := by
      rw [act, step?, workspace]
      rfl
    have steady' : ((first.run earlier).act (.deliver i conduct)).IsSteady := by
      rw [← run_concat]
      exact steady.run _
    have within := steady'.run_within later
    rw [acted] at within
    rw [List.append_cons, run_append, run_concat]
    exact within

end Shift

end Printworks
