import Printworks.Proofs.Execution.Account
import Printworks.Proofs.Execution.Effort

/-!
# How executions end

An execution that has not been cancelled comes to an end with every stage done, failed or skipped:
skipped are those behind one that failed, and all others have been started once. What is done at the
end with stages that have not been reached or have been lost finds none.
-/

namespace Printworks

namespace Execution

variable {e : Execution}

/-- What holds of an execution that has ended by itself, before and after it has been concluded. -/
structure EndsByItself (graph : Graph) (before after : Execution) : Prop where
  /-- There is a report for each stage, and the conclusion has changed none. -/
  reports : after.report.stages = before.reports ∧
    after.report.stages.map (·.stage) = graph.stageNames
  final : ∀ r ∈ after.report.stages, r.state = .done ∨ r.state = .failed ∨ r.state = .skipped
  skipped : ∀ (j : Nat) r, after.report.stages[j]? = some r → (r.state = .skipped ↔
    ∃ (i : Nat) (f : StageReport), after.report.stages[i]? = some f ∧ f.state = .failed ∧
      graph.Leads i j)
  blame : ∀ (j : Nat) r, after.report.stages[j]? = some r → r.state = .skipped →
    ∃ (i : Nat) (f : StageReport), after.report.stages[i]? = some f ∧ f.state = .failed ∧
      graph.Leads i j ∧ r.error = some (blockedReason f.stage)
  started : ∀ r ∈ after.report.stages,
    after.events.count (.stageStarted before.id r.stage) = if r.state = .skipped then 0 else 1
  completed : after.report.outcome = .completed ↔ ∀ r ∈ after.report.stages, r.state = .done
  failed : after.report.outcome ≠ .completed →
    after.report.outcome = .failed ∧ ∃ r ∈ after.report.stages, r.state = .failed
  /-- A stage that failed has the error that it ended with. -/
  errors : ∀ r ∈ after.report.stages, r.state = .failed → ∃ error : StageError,
    r.error = some error.message ∧ .stageFailed before.id r.stage error.message ∈ after.events
  reached : ∀ r ∈ after.report.stages, r.state = .skipped →
    ∀ cancelled, r.error ≠ some (unreachedReason cancelled)

/-! ### The last state -/

/-- When nothing runs and nothing may start, nothing waits either: what waits does so for a stage
that is not done, and that is one that has failed or stands behind one that has. -/
theorem IsConsistent.final (h : e.IsConsistent) (none : e.inFlight = []) (idle : e.ready = []) :
    ∀ i < e.graph.size,
      e.state? i = some .done ∨ e.state? i = some .failed ∨ e.state? i = some .skipped := by
  refine h.sound.induction (fun i lt before => ?_)
  obtain ⟨s, state⟩ := h.exists_state.mp lt
  cases s with
  | waiting =>
    have pos : 0 < (e.graph.predecessors i).countP e.isUndone :=
      h.missing i state ▸ h.waiting i state
    obtain ⟨p, edge, undone⟩ := List.countP_pos_iff.mp pos
    have blocked : e.state? i = some .skipped := by
      rcases before p edge with done | failed | skipped
      · rw [isUndone_eq_false.mpr done] at undone
        cases undone
      · exact h.blocked p i failed (.single edge)
      · obtain ⟨r, found, same⟩ := Option.map_eq_some_iff.mp skipped
        obtain ⟨a, failed, path, -⟩ := h.skipped p r found same
        exact h.blocked a i failed (path.tail edge)
    exact .inr (.inr blocked)
  | ready =>
    have member := (h.ready i).mpr state
    rw [idle] at member
    cases member
  | running =>
    have member := (h.inFlight i).mpr state
    rw [none] at member
    cases member
  | done => exact .inl state
  | failed => exact .inr (.inl state)
  | skipped => exact .inr (.inr state)

theorem foldl_closeStage {cancelled : Bool} (stages : List Nat)
    (final : ∀ i ∈ stages, e.state? i = some .done ∨ e.state? i = some .failed ∨
      e.state? i = some .skipped) : stages.foldl (closeStage cancelled) e = e := by
  induction stages with
  | nil => rfl
  | cons i rest ih =>
    have settled : closeStage cancelled e i = e := by
      rcases final i List.mem_cons_self with state | state | state <;>
        simp [closeStage, isPending, state]
    rw [List.foldl_cons, settled]
    exact ih (fun j member => final j (List.mem_cons_of_mem i member))

theorem conclude_of_final (h : e.IsConsistent) (none : e.inFlight = []) (idle : e.ready = []) :
    e.conclude false = e.emit (endEvent e.report) := by
  have quiet : e.observe false = e := by
    simp only [observe, Bool.or_false]
  have all : ∀ i ∈ List.range e.reports.length, e.state? i = some .done ∨
      e.state? i = some .failed ∨ e.state? i = some .skipped := by
    intro i member
    rw [List.mem_range, h.length] at member
    exact h.final none idle i member
  simp only [conclude, quiet, foldl_closeStage _ all]

/-- The reason to skip what is behind a failure is none of those for what has not been reached. -/
theorem blockedReason_ne (stage : String) (cancelled : Bool) :
    blockedReason stage ≠ unreachedReason cancelled := by
  intro same
  -- The two kinds of reasons differ in their first letter.
  have begins : blockedReason stage = "u" ++ ("pstream stage '" ++ stage ++ "' failed") := by
    have first : "upstream stage '" = "u" ++ "pstream stage '" := by decide
    rw [← String.append_assoc, ← String.append_assoc, ← first]
    rfl
  have letter := congrArg (fun text => text.toList.head?) (begins.symm.trans same)
  cases cancelled <;> simp [unreachedReason] at letter

theorem conclude_endsByItself (h : e.IsConsistent) (told : e.IsTold) (active : e.cancelled = false)
    (none : e.inFlight = []) (idle : e.ready = []) :
    EndsByItself e.graph e (e.conclude false) := by
  rw [conclude_of_final h none idle]
  have states {i : Nat} {r : StageReport} (found : e.reports[i]? = some r) :
      e.state? i = some r.state := by
    rw [state?, found]
    rfl
  have named {i : Nat} {r : StageReport} (found : e.reports[i]? = some r) :
      e.stageName i = r.stage := by
    rw [stageName, found]
    rfl
  have report {i : Nat} (failed : e.state? i = some .failed) :
      ∃ f, e.reports[i]? = some f ∧ f.state = .failed :=
    Option.map_eq_some_iff.mp failed
  have final : ∀ r ∈ e.reports, r.state = .done ∨ r.state = .failed ∨ r.state = .skipped := by
    intro r member
    obtain ⟨i, found⟩ := List.getElem?_of_mem member
    have ends := h.final none idle i (h.exists_state.mpr ⟨_, states found⟩)
    rw [states found] at ends
    simpa using ends
  have outcome : (e.emit (endEvent e.report)).report.outcome =
      if e.reports.all (fun r => r.state == .done) then .completed else .failed := by
    change e.outcome = _
    rw [Execution.outcome, active]
    rfl
  refine ⟨⟨rfl, h.stages⟩, final, ?_, ?_, ?_, ?_, ?_, ?_, ?_⟩
  · intro j r found
    constructor
    -- What is skipped has a failure to blame, and what lies behind a failure is skipped.
    · intro skipped
      obtain ⟨i, failed, path, -⟩ := h.skipped j r found skipped
      obtain ⟨f, there, state⟩ := report failed
      exact ⟨i, f, there, state, path⟩
    · rintro ⟨i, f, there, state, path⟩
      have skipped := h.blocked i j (state ▸ states there) path
      rw [states found] at skipped
      exact Option.some.inj skipped
  · intro j r found skipped
    obtain ⟨i, failed, path, reason⟩ := h.skipped j r found skipped
    obtain ⟨f, there, state⟩ := report failed
    exact ⟨i, f, there, state, path, named there ▸ reason⟩
  · intro r member
    obtain ⟨i, found⟩ := List.getElem?_of_mem member
    -- The event of the end is not one of a start.
    have quiet : (e.emit (endEvent e.report)).events.count (.stageStarted e.id r.stage) =
        e.events.count (.stageStarted e.id r.stage) := by
      rw [emit, List.count_append]
      unfold endEvent
      split <;> simp
    rw [quiet, ← named found, told.started i _ (states found)]
    rcases final r member with state | state | state <;> simp [state, IsStarted]
  · have all : e.reports.all (fun r => r.state == .done) = true ↔
        ∀ r ∈ e.reports, r.state = .done := by simp
    rw [outcome]
    by_cases every : ∀ r ∈ e.reports, r.state = .done
    -- The outcome is read off the reports, since nobody has cancelled.
    · rw [if_pos (all.mpr every)]
      exact ⟨fun _ => every, fun _ => rfl⟩
    · rw [if_neg (fun h => every (all.mp h))]
      exact ⟨fun completed => (by cases completed), fun h => absurd h every⟩
  · rw [outcome]
    intro incomplete
    by_cases all : e.reports.all (fun r => r.state == .done)
    · rw [if_pos all] at incomplete
      exact absurd rfl incomplete
    · refine ⟨by rw [if_neg all], ?_⟩
      obtain ⟨r, member, undone⟩ : ∃ r ∈ e.reports, r.state ≠ .done := by simpa using all
      rcases final r member with state | state | state
      · exact absurd state undone
      · exact ⟨r, member, state⟩
      · obtain ⟨j, found⟩ := List.getElem?_of_mem member
        -- A stage that was skipped blames one that failed.
        obtain ⟨i, failed, -, -⟩ := h.skipped j r found state
        obtain ⟨f, there, state⟩ := report failed
        exact ⟨f, List.mem_of_getElem? there, state⟩
  · intro r member state
    obtain ⟨i, found⟩ := List.getElem?_of_mem member
    obtain ⟨error, reason, event⟩ := told.failed i r found state
    exact ⟨error, reason, List.mem_append_left _ (named found ▸ event)⟩
  · intro r member state cancelled
    obtain ⟨j, found⟩ := List.getElem?_of_mem member
    obtain ⟨i, -, -, reason⟩ := h.skipped j r found state
    rw [reason]
    exact fun same => blockedReason_ne _ _ (Option.some.inj same)

end Execution

namespace Shift

/-- An execution of an accepted graph that is not told to stop ends. Only so many moves happen; as
long as it is not over one can, unless it waits for a permit and others hold all of them; and when it
is over each stage is done, has failed, or has been skipped because of one that has failed. -/
theorem run_ends {stages : List StageSpec} {attributes : Contract} {given : Suffixes}
    {graph : Graph} (accepted : graph.Accepts stages attributes given) (config : ExecutorConfig)
    (id : String) (seed : Dict Value) (suffixes : Suffixes) (moves : List Move)
    (uncancelled : .signal ∉ moves) :
    let first := start config id graph seed suffixes
    let s := first.run moves
    first.happenings moves ≤ 8 * graph.size + graph.readCount + 2 ∧
      (s.place ≠ .finished → (∃ m : Move, m.isOwn = true ∧ (s.step? m).isSome = true) ∨
        s.place = .queueing ∧ max 1 config.maxConcurrency ≤ s.others) ∧
      (s.place = .finished → s.execution.EndsByItself graph s.concluded) := by
  intro first s
  have steady := isSteady_start accepted.isSound config id seed suffixes
  have after : s.IsSteady := steady.run moves
  have quiet : s.signalled = false ∧ s.execution.cancelled = false :=
    steady.run_active rfl (cancelled_start ..) uncancelled
  refine ⟨?_, ?_, ?_⟩
  · have total := steady.happenings_le_of_quiet rfl (cancelled_start ..) uncancelled
    have bound := effort_start graph config id seed suffixes
    change first.happenings moves + _ ≤ first.effort at total
    change first.effort ≤ _ at bound
    omega
  · intro more
    have config_ : s.config = config := run_config _ moves
    exact config_ ▸ after.progress more
  · intro finished
    have told : s.execution.IsTold := isTold_run accepted.isSound config id seed suffixes moves
    have graph_ : s.execution.graph = graph := by
      rw [(steady.run_graph moves).1, graph_start]
    obtain ⟨none, idle⟩ : s.execution.inFlight = [] ∧ s.execution.ready = [] := by
      simpa [Execution.isOver, Execution.canDispatch, quiet.2] using after.finished finished
    rw [concluded, quiet.1, ← graph_]
    exact Execution.conclude_endsByItself after.consistent told quiet.2 none idle

/-- The first of two stages fails, and the one that waits for it is skipped. -/
theorem run_ends_pair :
    let moves : List Move := [.look, .start default, .rest, .enter 0, .enter 0,
      .deliver 0 ⟨[], some (.failed "no ink")⟩, .settle 0 default, .look, .rest]
    let first := start ⟨1⟩ "e" .pair (.ofList [("title", .string "Map")]) .numbered
    Graph.pair.Accepts Graph.pairStages Graph.pairAttributes .numbered ∧
      .signal ∉ moves ∧ first.happenings moves ≤ 20 ∧ (first.run moves).place = .finished ∧
      (first.run moves).execution.EndsByItself .pair (first.run moves).concluded ∧
      ((first.run moves).concluded.report.stages.map (·.state)) = [.failed, .skipped] := by
  intro moves first
  have uncancelled : .signal ∉ moves := by simp [moves]
  obtain ⟨bounded, -, ends⟩ := run_ends Graph.pair_accepted ⟨1⟩ "e"
    (.ofList [("title", .string "Map")]) .numbered moves uncancelled
  have finished : (first.run moves).place = .finished := by decide
  exact ⟨Graph.pair_accepted, uncancelled, bounded, finished, ends finished, by decide⟩

end Shift

end Printworks
