import Printworks.Proofs.Execution.Ending
import Printworks.Proofs.Execution.Outputs
import Printworks.Proofs.Execution.Results

/-!
# Executions that are told to stop

The signal may come at any time. It is looked at before stages are started, and it ends the wait for
one that runs; so an execution that has its permits to itself starts nothing any more once it has come
between two rounds. What has been started runs to its own end, and what has not been is skipped.
-/

namespace Printworks

/-- The report of a stage when the execution is over. -/
def StageReport.closed (r : StageReport) (cancelled : Bool) : StageReport :=
  if Execution.IsPendingState r.state then
    { r with state := .skipped, error := some (Execution.unreachedReason cancelled) }
  else r

namespace Execution

variable {e e' : Execution} {i j : Nat}

/-- Whether nothing has been told in the meantime of any stage that has been started. -/
def StartsNone (e e' : Execution) : Prop :=
  ∃ news, e'.events = e.events ++ news ∧ ∀ id stage, .stageStarted id stage ∉ news

theorem StartsNone.of_events (same : e'.events = e.events) : e.StartsNone e' :=
  ⟨[], by rw [same, List.append_nil], fun _ _ => List.not_mem_nil⟩

theorem StartsNone.trans {e'' : Execution} (first : e.StartsNone e') (second : e'.StartsNone e'') :
    e.StartsNone e'' := by
  obtain ⟨news, events, silent⟩ := first
  obtain ⟨news', events', silent'⟩ := second
  refine ⟨news ++ news', by rw [events', events, List.append_assoc], ?_⟩
  intro id stage member
  rcases List.mem_append.mp member with old | new
  · exact silent id stage old
  · exact silent' id stage new

theorem startsNone_emit {event : Event} (other : ∀ id stage, event ≠ .stageStarted id stage) :
    e.StartsNone (e.emit event) := by
  refine ⟨[event], rfl, ?_⟩
  intro id stage member
  exact other id stage (List.mem_singleton.mp member).symm

theorem IsConsistent.startsNone_settle (books : e.IsConsistent)
    {result : Except StageError (List String)} (ended : e.phase? i = some (.ended result))
    (now : Instant) : e.StartsNone (e.settle i now) := by
  cases result with
  | ok names =>
    have done := isCompleted_settle now (books.sound.edges.dependents i) ended
    refine ⟨[.stageCompleted e.id (e.stageName i) names], by rw [done.frame], ?_⟩
    intro id stage
    simp
  | error error =>
    have failed := isFailed_settle now (Graph.IsSound.nodup_transitiveDependents i) ended
    refine ⟨_, failed.events, ?_⟩
    intro id stage
    simp

/-! ### The conclusion -/

theorem state_closed (r : StageReport) (cancelled : Bool) : (r.closed cancelled).state =
    if IsPendingState r.state then .skipped else r.state := by
  unfold StageReport.closed
  split <;> rfl

/-- To close a stage once more makes no difference. -/
theorem closed_closed (r : StageReport) (cancelled : Bool) :
    (r.closed cancelled).closed cancelled = r.closed cancelled := by
  apply if_neg
  rw [state_closed]
  split
  next => simp [IsPendingState]
  next started => exact started

theorem stage_closed (r : StageReport) (cancelled : Bool) :
    (r.closed cancelled).stage = r.stage := by
  unfold StageReport.closed
  split <;> rfl

theorem reports_closeStage (cancelled : Bool) (idle : e.state? i ≠ some .running) (j : Nat) :
    (closeStage cancelled e i).reports[j]? =
      e.reports[j]?.map (fun r => if j = i then r.closed cancelled else r) := by
  unfold closeStage
  by_cases pending : e.isPending i = true
  · rw [if_pos pending]
    refine (getElem?_updateReport e i j _).trans ?_
    cases found : e.reports[j]? with
    | none => rfl
    | some r =>
      by_cases same : j = i
      · subst same
        have waits := (isPending_iff_report found).mp pending
        simp [StageReport.closed, waits]
      · simp [same]
  · rw [if_neg pending, if_neg idle]
    cases found : e.reports[j]? with
    | none => rfl
    | some r =>
      by_cases same : j = i
      · subst same
        have started : ¬ IsPendingState r.state :=
          fun waits => pending ((isPending_iff_report found).mpr waits)
        simp [StageReport.closed, started]
      · simp [same]

theorem startsNone_closeStage (cancelled : Bool) (e : Execution) (i : Nat) :
    e.StartsNone (closeStage cancelled e i) := by
  unfold closeStage
  split
  next => exact startsNone_emit (by simp)
  next =>
    split
    next => exact .of_events rfl
    next => exact .of_events rfl

/-- Where nothing runs, nothing does when a stage has been closed. -/
theorem idle_closeStage (cancelled : Bool) (idle : ∀ i, e.state? i ≠ some .running) (i j : Nat) :
    (closeStage cancelled e i).state? j ≠ some .running := by
  rw [state?, reports_closeStage cancelled (idle i)]
  have here := idle j
  rw [state?] at here
  cases found : e.reports[j]? with
  | none => simp
  | some r =>
    have other : r.state ≠ .running := by simpa [found] using here
    by_cases same : j = i
    · by_cases pending : IsPendingState r.state
      · simp [same, state_closed, pending]
      · simp [same, state_closed, pending, other]
    · simp [same, other]

theorem reports_foldl_closeStage (cancelled : Bool) (idle : ∀ i, e.state? i ≠ some .running)
    (stages : List Nat) (j : Nat) : (stages.foldl (closeStage cancelled) e).reports[j]? =
      e.reports[j]?.map (fun r => if j ∈ stages then r.closed cancelled else r) := by
  induction stages generalizing e with
  | nil => simp
  | cons i rest ih =>
    rw [List.foldl_cons, ih (idle_closeStage cancelled idle i), reports_closeStage cancelled (idle i),
      Option.map_map]
    apply congrArg (Option.map · e.reports[j]?)
    funext r
    by_cases same : j = i
    · subst same
      by_cases again : j ∈ rest
      · simp [again, closed_closed]
      · simp [again]
    · simp [same]

theorem startsNone_foldl_closeStage (cancelled : Bool) (stages : List Nat) (e : Execution) :
    e.StartsNone (stages.foldl (closeStage cancelled) e) := by
  induction stages generalizing e with
  | nil => exact .of_events rfl
  | cons i rest ih => exact (startsNone_closeStage cancelled e i).trans (ih _)

/-- The conclusion skips what has not been started, if nothing runs, and leaves all other reports. -/
theorem reports_conclude (signalled : Bool) (idle : ∀ i, e.state? i ≠ some .running) (j : Nat) :
    (e.conclude signalled).reports[j]? =
      e.reports[j]?.map (·.closed (e.cancelled || signalled)) := by
  have quiet : ∀ i, (e.observe signalled).state? i ≠ some .running := idle
  refine (reports_foldl_closeStage _ quiet (List.range e.reports.length) j).trans ?_
  change e.reports[j]?.map _ = _
  cases found : e.reports[j]? with
  | none => rfl
  | some r =>
    have inside : j < e.reports.length := (List.getElem?_eq_some_iff.mp found).1
    simp [inside, observe]

theorem startsNone_conclude (e : Execution) (signalled : Bool) :
    e.StartsNone (e.conclude signalled) := by
  have closed := startsNone_foldl_closeStage (e.observe signalled).cancelled
    (List.range e.reports.length) (e.observe signalled)
  refine StartsNone.trans closed (startsNone_emit ?_)
  intro id stage
  unfold endEvent
  split <;> simp

/-- The conclusion changes reports and tells of them, and nothing else but what is known of the
signal. -/
theorem conclude_frame (e : Execution) (signalled : Bool) : ∃ reports events,
    e.conclude signalled = { e.observe signalled with reports := reports, events := events } := by
  have closed (cancelled : Bool) (stages : List Nat) (e : Execution) : ∃ reports events,
      stages.foldl (closeStage cancelled) e = { e with reports := reports, events := events } := by
    induction stages generalizing e with
    | nil => exact ⟨e.reports, e.events, rfl⟩
    | cons i rest ih =>
      obtain ⟨reports, events, frame⟩ := ih (closeStage cancelled e i)
      refine ⟨reports, events, frame.trans ?_⟩
      unfold closeStage
      split
      next => rfl
      next => split <;> rfl
  obtain ⟨reports, events, frame⟩ := closed (e.observe signalled).cancelled
    (List.range (e.observe signalled).reports.length) (e.observe signalled)
  simp only [conclude, frame]
  exact ⟨reports, _, rfl⟩

/-- A conclusion says that the execution has been cancelled if it has been told to stop by then. -/
theorem outcome_conclude (e : Execution) (signalled : Bool) :
    (e.conclude signalled).report.outcome = .cancelled ↔
      (e.cancelled || signalled) = true := by
  obtain ⟨reports, events, frame⟩ := conclude_frame e signalled
  rw [frame, report, outcome, observe]
  cases e.cancelled || signalled with
  | true => simp
  | false =>
    simp only [Bool.false_eq_true, if_false, iff_false]
    split <;> simp

end Execution

namespace Shift

variable {first s s' : Shift} {m : Move} {moves : List Move}

/-! ### Alone -/

/-- Whether a shift has its permits to itself. It never waits for one then. -/
structure IsAlone (s : Shift) : Prop where
  others : s.others = 0
  place : s.place ≠ .queueing

theorem free_of_idle (alone : s.others = 0) (idle : s.execution.inFlight = []) : 0 < s.free := by
  have held : s.held = 0 := by
    rw [Shift.held, idle]
    rfl
  have permits : 0 < s.config.permits := by
    unfold ExecutorConfig.permits
    omega
  unfold free
  omega

theorem IsAlone.step (h : s.IsAlone) (alone : ∀ n, m = .occupy n → n = 0)
    (happens : s.Happens m s') : s'.IsAlone := by
  cases happens with
  | rest place cannot =>
    refine ⟨h.others, ?_⟩
    intro queueing
    obtain ⟨rests, -⟩ | ⟨-, idle, can⟩ | ⟨rests, -⟩ := s.resting_cases
    · cases rests.symm.trans queueing
    -- Nothing runs, so that all permits are free, and what may start can.
    · have free := free_of_idle h.others idle
      simp [canStart, can, free] at cannot
    · cases rests.symm.trans queueing
  | look _ | acquire _ _ | settle _ _ | wake _ _ => exact ⟨h.others, by simp⟩
  | start _ _ | enter _ | deliver _ | signal | supply => exact ⟨h.others, h.place⟩
  | occupy _ => exact ⟨alone _ rfl, h.place⟩

theorem isAlone_run (config : ExecutorConfig) (id : String) (graph : Graph) (seed : Dict Value)
    (suffixes : Suffixes) (alone : ∀ n, .occupy n ∈ moves → n = 0) :
    ((start config id graph seed suffixes).run moves).IsAlone := by
  refine run_induction (P := IsAlone) moves ⟨rfl, by simp [start]⟩ ?_
  intro s s' m member h happens
  exact h.step (fun n eq => alone n (eq ▸ member)) happens

/-! ### Told to stop -/

/-- Whether a shift has been told to stop, and not while it starts stages. -/
structure IsStopping (s : Shift) : Prop extends IsAlone s where
  signalled : s.signalled = true
  round : s.place = .starting → s.execution.cancelled = true

/-- A shift that has been told to stop starts nothing, and goes on so. -/
theorem IsStopping.step (h : s.IsStopping) (steady : s.IsSteady)
    (alone : ∀ n, m = .occupy n → n = 0) (happens : s.Happens m s') :
    s'.IsStopping ∧ s.execution.StartsNone s'.execution := by
  have next : s'.IsAlone := h.toIsAlone.step alone happens
  have books := steady.consistent
  cases happens with
  | look _ => exact ⟨⟨next, h.signalled, fun _ => by simp [Execution.observe, h.signalled]⟩, .of_events rfl⟩
  | start place can =>
    have active := (queue_of_canStart can).1
    rw [h.round place] at active
    cases active
  | rest place _ =>
    refine ⟨⟨next, h.signalled, fun _ => h.round place⟩, .of_events rfl⟩
  | acquire place _ => exact absurd place h.place
  | enter phase =>
    have frame := Execution.enter_frame s.execution
    refine ⟨⟨next, h.signalled, ?_⟩, .of_events (by rw [frame])⟩
    rw [frame]
    exact h.round
  | deliver workspace => exact ⟨⟨next, h.signalled, h.round⟩, .of_events rfl⟩
  | settle _ ended =>
    exact ⟨⟨next, h.signalled, fun place => by cases place⟩, books.startsNone_settle ended _⟩
  | wake _ _ => exact ⟨⟨next, h.signalled, fun place => by cases place⟩, .of_events rfl⟩
  | signal => exact ⟨⟨next, rfl, h.round⟩, .of_events rfl⟩
  | occupy _ => exact ⟨⟨next, h.signalled, h.round⟩, .of_events rfl⟩
  | supply => exact ⟨⟨next, h.signalled, h.round⟩, .of_events rfl⟩

theorem IsStopping.run (h : s.IsStopping) (steady : s.IsSteady)
    (alone : ∀ n, .occupy n ∈ moves → n = 0) :
    (s.run moves).IsStopping ∧ s.execution.StartsNone (s.run moves).execution := by
  have all : (s.run moves).IsSteady ∧ (s.run moves).IsStopping ∧
      s.execution.StartsNone (s.run moves).execution := by
    refine run_induction (P := fun t => t.IsSteady ∧ t.IsStopping ∧
      s.execution.StartsNone t.execution) moves ⟨steady, h, .of_events rfl⟩ ?_
    rintro t t' m member ⟨steady, stopping, silent⟩ happens
    obtain ⟨next, more⟩ := stopping.step steady (fun n eq => alone n (eq ▸ member)) happens
    exact ⟨steady.step happens, next, silent.trans more⟩
  exact all.2

/-! ### Every execution -/

/-- Whether a stage that has been started has run to its own end: it is done, and what it has
delivered is among the values; or it has failed, with the error that it has ended with. -/
def RunsToItsEnd (first : Shift) (moves : List Move) (i : Nat) (r : StageReport)
    (values : Dict Value) : Prop :=
  (r.state = .done ∧ ∃ earlier conduct later w names after,
    moves = earlier ++ .deliver i conduct :: later ∧
      (first.run earlier).execution.workspace? i = some w ∧
      Execution.stored (first.run earlier).execution.context (conduct.play w) = (.ok names, after) ∧
      after.values.Within values) ∨
  (r.state = .failed ∧ ∃ error : StageError, r.error = some error.message ∧
    first.HasYielded moves i (.error error))

/-- What holds of an execution that is over, whether or not it has been told to stop. -/
structure ComesToRest (first : Shift) (moves : List Move) (graph : Graph) (after : Execution) :
    Prop where
  stages : after.report.stages.map (·.stage) = graph.stageNames
  started : ∀ (i : Nat) r, after.report.stages[i]? = some r →
    .stageStarted after.id r.stage ∈ after.events →
      first.RunsToItsEnd moves i r after.report.values
  skipped : ∀ (i : Nat) r, after.report.stages[i]? = some r →
    .stageStarted after.id r.stage ∉ after.events → r.state = .skipped
  outcome : after.report.outcome = .cancelled ↔ .signal ∈ moves

section

variable {stages : List StageSpec} {attributes : Contract} {given : Suffixes} {graph : Graph}

/-- The signal is remembered. -/
theorem signalled_run (s : Shift) (told : .signal ∈ moves) : (s.run moves).signalled = true := by
  obtain ⟨earlier, later, rfl⟩ := List.append_of_mem told
  rw [List.append_cons, run_append, run_concat]
  refine run_induction (P := fun t => t.signalled = true) later rfl ?_
  intro t t' m _ signalled happens
  by_cases again : m = .signal
  · subst again
    cases happens
    rfl
  · rw [happens.signalled again, signalled]

theorem idle_of_finished (steady : s.IsSteady) (finished : s.place = .finished) (i : Nat) :
    s.execution.state? i ≠ some .running := by
  intro running
  have ends := steady.finished finished
  simp only [Execution.isOver, Bool.and_eq_true, List.isEmpty_iff] at ends
  have member := (steady.consistent.inFlight i).mpr running
  rw [ends.1] at member
  cases member

/-- Whether the signal has been heard or waits to be, it has come. -/
theorem heard_iff {graph : Graph} (sound : graph.IsSound) (config : ExecutorConfig) (id : String)
    (seed : Dict Value) (suffixes : Suffixes) (moves : List Move) :
    ((start config id graph seed suffixes).run moves).execution.cancelled = true ∨
      ((start config id graph seed suffixes).run moves).signalled = true ↔ .signal ∈ moves := by
  constructor
  · intro heard
    apply Classical.byContradiction
    intro silent
    obtain ⟨quiet, active⟩ :=
      (isSteady_start sound config id seed suffixes).run_active rfl (cancelled_start ..) silent
    simp [quiet, active] at heard
  · exact fun told => .inr (signalled_run _ told)

theorem concluded_frame (s : Shift) :
    s.concluded.id = s.execution.id ∧ s.concluded.context = s.execution.context := by
  obtain ⟨_, _, frame⟩ := Execution.conclude_frame s.execution s.signalled
  rw [concluded, frame]
  exact ⟨rfl, rfl⟩

/-- The conclusion closes the reports of stages that have not been started, and changes no others; what
has been told of starts by then are those of all the others. -/
theorem exists_report_of_concluded (steady : s.IsSteady) (told : s.execution.IsTold)
    (finished : s.place = .finished) {i : Nat} {r : StageReport}
    (found : s.concluded.report.stages[i]? = some r) :
    ∃ before, s.execution.reports[i]? = some before ∧ s.execution.state? i = some before.state ∧
      r = before.closed (s.execution.cancelled || s.signalled) ∧
      (.stageStarted s.concluded.id r.stage ∈ s.concluded.events ↔
        Execution.IsStarted before.state) := by
  have reports := Execution.reports_conclude s.signalled (idle_of_finished steady finished) i
  obtain ⟨before, there, rfl⟩ := Option.map_eq_some_iff.mp (reports.symm.trans found)
  have state : s.execution.state? i = some before.state := by
    rw [Execution.state?, there]
    rfl
  have name : s.execution.stageName i = before.stage := by
    rw [Execution.stageName, there]
    rfl
  refine ⟨before, there, state, rfl, ?_⟩
  -- A start is told of once or never, and the conclusion adds none.
  have count := told.started i _ state
  obtain ⟨news, events, silent⟩ := Execution.startsNone_conclude s.execution s.signalled
  have known : s.concluded.events = s.execution.events ++ news := events
  rw [known, List.mem_append, or_iff_left (silent _ _), Execution.stage_closed, ← name,
    (concluded_frame s).1, ← List.count_pos_iff, count]
  by_cases started : Execution.IsStarted before.state <;> simp [started]

/-- When an execution is over, each stage that has been started has run to its own end, and every
other one is skipped. -/
theorem comesToRest_run (accepted : graph.Accepts stages attributes given) (config : ExecutorConfig)
    (id : String) (seed : Dict Value) (suffixes : Suffixes) (moves : List Move)
    (finished : ((start config id graph seed suffixes).run moves).place = .finished) :
    (start config id graph seed suffixes).ComesToRest moves graph
      ((start config id graph seed suffixes).run moves).concluded := by
  have begins := isSteady_start accepted.isSound config id seed suffixes
  have steady := begins.run moves
  have told := isTold_run accepted.isSound config id seed suffixes moves
  have grounded := isGrounded_run accepted.isSound config id seed suffixes moves
  have heard := heard_iff accepted.isSound config id seed suffixes moves
  have sameGraph := graph_run accepted.isSound config id seed suffixes moves
  have delivered {i : Nat} {names : List String} (yielded :
      (start config id graph seed suffixes).HasYielded moves i (.ok names)) := yielded.stored begins
  generalize (start config id graph seed suffixes).run moves = s at *
  have idle := idle_of_finished steady finished
  refine ⟨?_, ?_, ?_, ?_⟩
  · have reports := Execution.reports_conclude s.signalled idle
    have names := (Execution.names_of_map reports (fun _ r => Execution.stage_closed r _)).1
    rw [← sameGraph]
    exact names.trans steady.consistent.stages
  · intro i r found event
    obtain ⟨before, there, state, rfl, iff⟩ := exists_report_of_concluded steady told finished found
    rcases iff.mp event with running | done | failed
    · exact absurd (running ▸ state) (idle i)
    · rw [done] at state
      obtain ⟨names, yielded⟩ := grounded.done i state
      obtain ⟨earlier, conduct, later, w, after, split, workspace, stored, within⟩ :=
        delivered yielded
      refine .inl ⟨by simp [Execution.state_closed, done, Execution.IsPendingState], ?_⟩
      refine ⟨earlier, conduct, later, w, names, after, split, workspace, stored, ?_⟩
      change after.values.Within s.concluded.context.values
      rwa [(concluded_frame s).2]
    · obtain ⟨error, reason, yielded⟩ := grounded.failed i before there failed
      have left : before.closed (s.execution.cancelled || s.signalled) = before :=
        if_neg (by simp [Execution.IsPendingState, failed])
      rw [left]
      exact .inr ⟨failed, error, reason, yielded⟩
  · intro i r found event
    obtain ⟨before, -, -, rfl, iff⟩ := exists_report_of_concluded steady told finished found
    have untold : ¬ Execution.IsStarted before.state := fun started => event (iff.mpr started)
    rw [Execution.state_closed]
    cases state : before.state with
    | waiting | ready | skipped => simp [Execution.IsPendingState]
    | running | done | failed => simp [state, Execution.IsStarted] at untold
  · rw [← heard]
    refine (Execution.outcome_conclude _ _).trans ?_
    rw [Bool.or_eq_true]

/-- An execution of an accepted graph that has its permits to itself may be told to stop at any time
between two rounds. Only so many moves happen whether it is or not, and as long as it is not over one
can. From the signal on nothing is started. When it is over each stage that has been started has run
to its own end and is done, with what it has delivered among the values, or has failed; every other
one is skipped; and it says that it has been cancelled if and only if it has been told to stop. -/
theorem run_stops (accepted : graph.Accepts stages attributes given) (config : ExecutorConfig)
    (id : String) (seed : Dict Value) (suffixes : Suffixes) (moves : List Move)
    (alone : ∀ n, .occupy n ∈ moves → n = 0)
    (between : ∀ earlier later, moves = earlier ++ .signal :: later →
      ((start config id graph seed suffixes).run earlier).place ≠ .starting) :
    let first := start config id graph seed suffixes
    let s := first.run moves
    first.happenings moves ≤ 8 * graph.size + graph.readCount + 5 ∧
      (s.place ≠ .finished → ∃ m : Move, m.isOwn = true ∧ (s.step? m).isSome = true) ∧
      (∀ earlier later, moves = earlier ++ .signal :: later →
        ∃ news, s.concluded.events = (first.run earlier).execution.events ++ news ∧
          ∀ id stage, .stageStarted id stage ∉ news) ∧
      (s.place = .finished → first.ComesToRest moves graph s.concluded ∧
        ((∀ name, seed.contains name = true → attributes.contains name = true) →
          first.Leaves moves graph seed s.concluded.report)) := by
  intro first s
  have begins : first.IsSteady := isSteady_start accepted.isSound config id seed suffixes
  have steady : s.IsSteady := begins.run moves
  have apart : s.IsAlone := isAlone_run config id graph seed suffixes alone
  refine ⟨?_, ?_, ?_, ?_⟩
  · have total := begins.happenings_le moves
    have bound : first.effort ≤ 8 * graph.size + graph.readCount + 2 :=
      effort_start graph config id seed suffixes
    have reserve := first.reserve_le
    omega
  · intro more
    rcases steady.progress more with own | ⟨queueing, -⟩
    · exact own
    · exact absurd queueing apart.place
  · intro earlier later split
    subst split
    have before : (first.run earlier).IsSteady := begins.run earlier
    have aloneBefore : ∀ n, .occupy n ∈ earlier → n = 0 :=
      fun n member => alone n (List.mem_append_left _ member)
    have apart' : (first.run earlier).IsAlone := isAlone_run config id graph seed suffixes aloneBefore
    -- From the signal on it is stopping, and the conclusion after the last move starts nothing either.
    have stopping : ((first.run earlier).act .signal).IsStopping := by
      refine ⟨⟨apart'.others, apart'.place⟩, rfl, ?_⟩
      intro starting
      exact absurd starting (between earlier later rfl)
    have told : ((first.run earlier).act .signal).IsSteady := before.step .signal
    have aloneLater : ∀ n, .occupy n ∈ later → n = 0 :=
      fun n member => alone n (List.mem_append_right _ (List.mem_cons_of_mem _ member))
    obtain ⟨-, silent⟩ := stopping.run told aloneLater
    have ran : s = ((first.run earlier).act .signal).run later := run_append first earlier _
    rw [← ran] at silent
    exact silent.trans (Execution.startsNone_conclude s.execution s.signalled)
  · intro finished
    refine ⟨comesToRest_run accepted config id seed suffixes moves finished, ?_⟩
    exact fun seeded => leaves_run accepted seeded config id suffixes moves finished

/-- The first of two stages works when the signal comes. It ends well, and the second is skipped. -/
theorem run_stops_pair :
    let seed : Dict Value := .ofList [("title", .string "Map")]
    let first := start ⟨1⟩ "e" .pair seed .numbered
    let earlier : List Move := [.look, .start default, .rest, .enter 0, .enter 0]
    let later : List Move := [.wake, .look, .rest,
      .deliver 0 ⟨[("sheet", .string "A1")], none⟩, .settle 0 default, .look, .rest]
    let moves := earlier ++ .signal :: later
    let report := (first.run moves).concluded.report
    Graph.pair.Accepts Graph.pairStages Graph.pairAttributes .numbered ∧
      (first.run moves).place = .finished ∧ first.happenings moves ≤ 23 ∧
      (∃ news, (first.run moves).concluded.events =
        (first.run earlier).execution.events ++ news ∧ ∀ id stage, .stageStarted id stage ∉ news) ∧
      first.ComesToRest moves .pair (first.run moves).concluded ∧
      first.Leaves moves .pair seed report ∧ report.outcome = .cancelled ∧
      report.stages.map (·.state) = [.done, .skipped] := by
  intro seed first earlier later moves report
  have alone : ∀ n, .occupy n ∈ moves → n = 0 := by simp [moves, earlier, later]
  have between : ∀ before after, moves = before ++ .signal :: after →
      (first.run before).place ≠ .starting := by
    intro before after split
    -- The signal stands in one place only.
    rcases append_eq_append_cons split with ⟨rest, inside⟩ | ⟨more, rfl, inside⟩
    · have member : .signal ∈ earlier := by rw [inside]; simp
      simp [earlier] at member
    · cases more with
      | nil => decide
      | cons m more =>
        have member : .signal ∈ later := by rw [(List.cons.inj inside).2]; simp
        simp [later] at member
  have seeded : ∀ name, seed.contains name = true → Graph.pairAttributes.contains name = true := by
    intro name member
    have title : name ∈ ["title"] := Dict.contains_iff_mem_keys.mp member
    rw [List.mem_singleton.mp title]
    decide
  obtain ⟨bounded, -, silent, ends⟩ := run_stops Graph.pair_accepted ⟨1⟩ "e" seed .numbered moves
    alone between
  have finished : (first.run moves).place = .finished := by decide
  obtain ⟨rests, leaves⟩ := ends finished
  exact ⟨Graph.pair_accepted, finished, bounded, silent earlier _ rfl, rests, leaves seeded,
    rests.outcome.mpr (by simp [moves]), by decide⟩

end

end Shift

end Printworks
