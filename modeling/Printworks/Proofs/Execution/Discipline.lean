import Printworks.Proofs.Execution.Account

/-!
# What holds at any time

Whatever happens to an execution of an accepted graph, its reports, its counts, its queue and what
runs describe the same stages, no stage starts before what it waits for is done, and no more stages
work than there are permits.

A stage gives its permit back when it ends, and that is before its end is taken note of. So there are
times at which more stages count as running than there are permits.
-/

namespace Printworks.Shift

variable {s s' : Shift} {m : Move}

/-- What holds of a shift at any time. -/
structure IsOrderly (s : Shift) : Prop where
  running : ∀ i, i ∈ s.execution.inFlight.map (·.stage) ↔ s.execution.state? i = some .running
  runningOnce : (s.execution.inFlight.map (·.stage)).Nodup
  /-- Those that have not ended hold a permit each. -/
  permits : s.others + s.held ≤ s.config.permits
  ready : ∀ i, i ∈ s.execution.ready ↔ s.execution.state? i = some .ready
  readyOnce : s.execution.ready.Nodup
  missing : ∀ i, s.execution.state? i = some .waiting →
    s.execution.missing i =
      (s.execution.graph.predecessors i).countP (fun p => s.execution.state? p ≠ some .done) ∧
    0 < s.execution.missing i
  cleared : ∀ i state, s.execution.state? i = some state → Execution.IsCleared state →
    ∀ p ∈ s.execution.graph.predecessors i,
      s.execution.state? p = some .done ∧ ∃ names, s.execution.HasStored p names
  startedOnce : ∀ i < s.execution.graph.size,
    s.execution.events.count (.stageStarted s.execution.id (s.execution.stageName i)) ≤ 1
  startedAfter : ∀ i, ∀ p ∈ s.execution.graph.predecessors i, ∀ earlier later,
    s.execution.events =
      earlier ++ .stageStarted s.execution.id (s.execution.stageName i) :: later →
    ∃ names, .stageCompleted s.execution.id (s.execution.stageName p) names ∈ earlier
  apart : ∀ i j, s.execution.graph.Leads i j → s.execution.state? i = some .running →
    s.execution.state? j ≠ some .running
  /-- While those behind a stage are released one by one, none that waits has nothing left to wait
  for. -/
  noUnderflow : ∀ i now outputs, s.execution.phase? i = some (.ended (.ok outputs)) →
    ∀ released d others, s.execution.graph.dependents i = released ++ d :: others →
      let meanwhile := released.foldl Execution.release (s.execution.succeeded i now outputs)
      meanwhile.state? d = some .waiting → 0 < meanwhile.missing d

theorem IsSteady.isOrderly (steady : s.IsSteady) (told : s.execution.IsTold) : s.IsOrderly := by
  have h := steady.consistent
  refine ⟨h.inFlight, h.flights, steady.permits, h.ready, h.readyNodup, ?_, ?_, ?_, told.before,
    ?_, ?_⟩
  · intro i waiting
    refine ⟨?_, h.waiting i waiting⟩
    rw [h.missing i waiting]
    refine List.countP_congr (fun p _ => ?_)
    simp [Execution.isUndone]
  · intro i state there cleared p edge
    have done := h.cleared i state there cleared p edge
    obtain ⟨names, stored, -⟩ := told.done p done
    exact ⟨done, names, stored⟩
  · intro i lt
    obtain ⟨state, there⟩ := h.exists_state.mp lt
    rw [told.started i state there]
    split <;> omega
  · intro i j path first second
    exact h.not_cleared_of_leads first path second (.inr (.inl rfl))
  · intro i now outputs _ released d others split meanwhile waiting
    exact h.missing_pos split now outputs waiting

/-! ### Waiting -/

/-- Whether a shift has its permits to itself, and waits only if it cannot start more. -/
structure IsBusy (s : Shift) : Prop where
  alone : s.others = 0
  waiting : s.place = .waiting → s.execution.cancelled = false →
    s.execution.ready = [] ∨ s.config.permits ≤ s.execution.inFlight.length

theorem IsBusy.of_ne_waiting (alone : s.others = 0) (elsewhere : s.place ≠ .waiting) : s.IsBusy :=
  ⟨alone, fun place => absurd place elsewhere⟩

theorem IsBusy.of_sameBooks (h : s.IsBusy) {e : Execution} (same : s.execution.SameBooks e)
    (cancelled : e.cancelled = s.execution.cancelled) : IsBusy { s with execution := e } := by
  refine ⟨h.alone, fun place active => ?_⟩
  have lengths := congrArg List.length same.inFlight
  rw [List.length_map, List.length_map] at lengths
  have before := h.waiting place (cancelled ▸ active)
  exact before.imp (same.ready ▸ ·) (lengths ▸ ·)

theorem IsBusy.step (h : s.IsBusy) (alone : ∀ n, m = .occupy n → n = 0) (happens : s.Happens m s') :
    s'.IsBusy := by
  cases happens with
  | look place => exact .of_ne_waiting h.alone (by simp)
  | start place can =>
    refine .of_ne_waiting h.alone ?_
    change s.place ≠ .waiting
    simp [place]
  | rest place cannot =>
    refine ⟨h.alone, fun _ active => ?_⟩
    -- No stage may start, or no permit is left, and then all of them are held by stages that run.
    have all : s.held ≤ s.execution.inFlight.length := List.countP_le_length
    have alone := h.alone
    by_cases none : s.execution.ready = []
    · exact .inl none
    · have free : s.free = 0 := by
        have can : s.execution.canDispatch = true := by
          simpa [Execution.canDispatch, none] using active
        simpa [canStart, can] using cannot
      unfold Shift.free at free
      refine .inr ?_
      change s.config.permits ≤ s.execution.inFlight.length
      omega
  | acquire place free => exact .of_ne_waiting h.alone (by simp)
  | enter phase => exact h.of_sameBooks (Execution.sameBooks_enter _ _) (by rw [Execution.enter_frame])
  | deliver workspace => exact h.of_sameBooks (Execution.sameBooks_deliver _ _ _) rfl
  | settle place ended => exact .of_ne_waiting h.alone (by simp)
  | wake signalled can => exact .of_ne_waiting h.alone (by simp)
  | signal => exact ⟨h.alone, h.waiting⟩
  | occupy enough => exact ⟨alone _ rfl, h.waiting⟩
  | supply => exact h.of_sameBooks (Execution.sameBooks_supply _ _) rfl

/-! ### Every execution -/

/-- Whatever happens to an execution of an accepted graph, everything that is kept about its stages
agrees, and one that has its permits to itself and has not been cancelled waits only if no stage may
start or as many run as there are permits. -/
theorem run_isOrderly {stages : List StageSpec} {attributes : Contract} {given : Suffixes}
    {graph : Graph} (accepted : graph.Accepts stages attributes given) (config : ExecutorConfig)
    (id : String) (seed : Dict Value) (suffixes : Suffixes) (moves : List Move) :
    let s := (start config id graph seed suffixes).run moves
    s.config = config ∧ s.execution.graph = graph ∧ s.IsOrderly ∧
      ((∀ n, .occupy n ∈ moves → n = 0) → s.place = .waiting → s.execution.cancelled = false →
        (∀ i, s.execution.state? i ≠ some .ready) ∨
          max 1 config.maxConcurrency ≤ s.execution.inFlight.length) := by
  intro s
  have steady := isSteady_start accepted.isSound config id seed suffixes
  have told : s.execution.IsTold := isTold_run accepted.isSound config id seed suffixes moves
  have config_ : s.config = config := run_config _ moves
  refine ⟨config_, ?_, (steady.run moves).isOrderly told, ?_⟩
  · rw [(steady.run_graph moves).1, graph_start]
  · intro alone waiting active
    have busy : s.IsBusy := by
      refine run_induction (P := IsBusy) moves (.of_ne_waiting rfl (by simp [start])) ?_
      intro s s' m member h happens
      exact h.step (fun n eq => alone n (eq ▸ member)) happens
    rcases busy.waiting waiting active with none | full
    · refine .inl (fun i ready => ?_)
      have member := ((steady.run moves).consistent.ready i).mpr ready
      change i ∈ s.execution.ready at member
      rw [none] at member
      cases member
    · refine .inr ?_
      rwa [config_] at full

theorem run_isOrderly_pair :
    let moves : List Move := [.look, .start default, .rest, .enter 0, .enter 0]
    let s := (start ⟨1⟩ "e" .pair (.ofList [("title", .string "Map")]) .numbered).run moves
    Graph.pair.Accepts Graph.pairStages Graph.pairAttributes .numbered ∧
      s.IsOrderly ∧ s.execution.state? 1 = some .waiting ∧ s.place = .waiting ∧
        ((∀ i, s.execution.state? i ≠ some .ready) ∨ 1 ≤ s.execution.inFlight.length) := by
  intro moves s
  obtain ⟨-, -, orderly, waits⟩ := run_isOrderly Graph.pair_accepted ⟨1⟩ "e"
    (.ofList [("title", .string "Map")]) .numbered moves
  have waiting : s.place = .waiting := by decide
  exact ⟨Graph.pair_accepted, orderly, by decide, waiting, waits (by simp [moves]) waiting (by decide)⟩

/-- Four stages of which none waits for another. -/
def fourApart : Graph :=
  ⟨["a", "b", "c", "d"].map (⟨·, ∅, ∅, ∅, ∅⟩), ∅, [[], [], [], []], [[], [], [], []], ∅,
    [0, 1, 2, 3]⟩

/-- Two stages end together, and when the end of one has been taken note of, two more start: three
count as running then, though two may run at once. -/
theorem running_exceeds_permits :
    fourApart.Accepts (["a", "b", "c", "d"].map (⟨·, ∅, ∅, ∅, ∅⟩)) ∅ .numbered ∧
      let s := (start ⟨2⟩ "e" fourApart ∅ .numbered).run
        [.look, .start default, .start default, .rest, .enter 0, .enter 1, .deliver 0 ⟨[], none⟩,
          .deliver 1 ⟨[], none⟩, .settle 0 default, .look, .start default, .start default]
      ¬ s.execution.inFlight.length ≤ max 1 s.config.maxConcurrency :=
  ⟨⟨_, rfl⟩, by decide⟩

end Printworks.Shift
