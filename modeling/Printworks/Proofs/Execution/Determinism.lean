import Printworks.Proofs.Execution.Faithful

/-!
# What comes out does not depend on when things happen

When each stage is a function of its inputs, an execution that is not cancelled ends as visiting one
stage after the other does, whatever order its stages start and end in and however many run at once:
both solve the equations of the graph, and these have one solution.
-/

namespace Printworks

/-! ### Reports that tell the same -/

/-- What a report tells of a stage besides the time and the reason why it was skipped. -/
def StageReport.essence (r : StageReport) : String × StageState × Option String :=
  (r.stage, r.state, if r.state = .failed then r.error else none)

/-- Whether two reports tell the same, besides the times and the reasons why stages were skipped. -/
structure ExecutionReport.TellsSame (a b : ExecutionReport) : Prop where
  values : a.values = b.values
  states : a.stages.map (fun r => (r.stage, r.state)) = b.stages.map (fun r => (r.stage, r.state))
  failures : ∀ (i : Nat) r, a.stages[i]? = some r → r.state = .failed →
    ∃ r', b.stages[i]? = some r' ∧ r.error = r'.error
  outcome : a.outcome = b.outcome
  summary : a.failureSummary = b.failureSummary

theorem StageReport.IsFinal.essence_eq {r r' : StageReport} (final : r.IsFinal)
    (final' : r'.IsFinal) (name : r.stage = r'.stage) (fate : Fate.ofReport r = .ofReport r') :
    r.essence = r'.essence := by
  -- Nine pairs of final states; equal fates leave the three in which both stages ended alike.
  rcases final with state | ⟨state, some_⟩ | state <;>
    rcases final' with state' | ⟨state', some'⟩ | state' <;>
      simp only [Fate.ofReport, state, state', reduceCtorEq, Fate.failed.injEq] at fate
  · simp [essence, name, state, state']
  · obtain ⟨error, reason⟩ := Option.isSome_iff_exists.mp some_
    obtain ⟨error', reason'⟩ := Option.isSome_iff_exists.mp some'
    rw [reason, reason'] at fate
    have same : error = error' := fate
    simp [essence, name, state, state', reason, reason', same]
  · simp [essence, name, state, state']

theorem essence_eq_of_fate {a b : List StageReport} (names : a.map (·.stage) = b.map (·.stage))
    (final : ∀ r ∈ a, r.IsFinal) (final' : ∀ r ∈ b, r.IsFinal)
    (fate : ∀ i < a.length, fateOf a i = fateOf b i) :
    a.map StageReport.essence = b.map StageReport.essence := by
  have length : a.length = b.length := by simpa using congrArg List.length names
  refine List.ext_getElem (by simpa using length) (fun i lt lt' => ?_)
  rw [List.length_map] at lt lt'
  rw [List.getElem_map, List.getElem_map]
  refine (final _ (List.getElem_mem lt)).essence_eq (final' _ (List.getElem_mem lt')) ?_ ?_
  · have name := congrArg (·[i]?) names
    simpa [List.getElem?_eq_getElem lt, List.getElem?_eq_getElem lt'] using name
  · have same := fate i lt
    simpa [fateOf, List.getElem?_eq_getElem lt, List.getElem?_eq_getElem lt'] using same

/-- Why an execution did not complete depends on what its report tells. -/
theorem failureSummary_congr {a b : ExecutionReport} (outcome : a.outcome = b.outcome)
    (stages : a.stages.map StageReport.essence = b.stages.map StageReport.essence) :
    a.failureSummary = b.failureSummary := by
  -- The sentences on failed stages and the names of skipped ones read nothing but the essence.
  have failures (l : List StageReport) :
      (l.filter (fun s => s.state == .failed)).map ExecutionReport.failureText =
        ((l.map StageReport.essence).filter (fun e => e.2.1 == .failed)).map (fun e =>
          "stage '" ++ e.1 ++ "' failed: " ++ e.2.2.getD "unknown error") := by
    rw [List.filter_map, List.map_map]
    refine List.map_congr_left (fun r member => ?_)
    have failed : r.state = .failed := by simpa using (List.mem_filter.mp member).2
    simp [ExecutionReport.failureText, StageReport.essence, failed]
  have skipped (l : List StageReport) : (l.filter (fun s => s.state == .skipped)).map (·.stage) =
      ((l.map StageReport.essence).filter (fun e => e.2.1 == .skipped)).map (·.1) := by
    rw [List.filter_map, List.map_map]
    rfl
  have detail : a.stageDetail = b.stageDetail := by
    simp only [ExecutionReport.stageDetail, ExecutionReport.stagesIn, failures, skipped, stages]
  simp only [ExecutionReport.failureSummary, detail, outcome]

theorem all_done_congr {a b : List StageReport}
    (stages : a.map StageReport.essence = b.map StageReport.essence) :
    a.all (fun r => r.state == .done) = b.all (fun r => r.state == .done) := by
  have told (l : List StageReport) : l.all (fun r => r.state == .done) =
      (l.map StageReport.essence).all (fun e => e.2.1 == .done) := by
    rw [List.all_map]
    rfl
  rw [told, told, stages]

theorem tellsSame_of_essence {a b : ExecutionReport} (values : a.values = b.values)
    (outcome : a.outcome = b.outcome)
    (stages : a.stages.map StageReport.essence = b.stages.map StageReport.essence) :
    a.TellsSame b := by
  refine ⟨values, ?_, ?_, outcome, failureSummary_congr outcome stages⟩
  · have pairs := congrArg (List.map (fun e : String × StageState × Option String => (e.1, e.2.1)))
      stages
    rwa [List.map_map, List.map_map] at pairs
  · intro i r found failed
    have there := congrArg (·[i]?) stages
    simp only [List.getElem?_map, found, Option.map_some] at there
    obtain ⟨r', found', same⟩ := Option.map_eq_some_iff.mp there.symm
    refine ⟨r', found', ?_⟩
    have state : r'.state = .failed := (congrArg (·.2.1) same).trans failed
    have error := congrArg (·.2.2) same
    simpa [StageReport.essence, failed, state] using error.symm

/-! ### All orders of events -/

namespace Shift

variable {s s' : Shift} {m : Move} {crew : Crew} {seed : Dict Value}

/-- A move in which a stage that ends does with its inputs what it always does with them. -/
def staffed (crew : Crew) (s : Shift) (m : Move) : Move :=
  match m with
  | .deliver i conduct =>
    match s.execution.phase? i with
    | some (.working inputs) => .deliver i (crew i inputs)
    | _ => .deliver i conduct
  | m => m

/-- Some moves, in which each stage does what it always does. -/
def staffing (crew : Crew) (s : Shift) (moves : List Move) : List Move :=
  match moves with
  | [] => []
  | m :: rest => staffed crew s m :: (s.act (staffed crew s m)).staffing crew rest

/-- The shift after some moves in which each stage does what it always does. -/
def runBy (crew : Crew) (s : Shift) (moves : List Move) : Shift := s.run (s.staffing crew moves)

theorem staffed_deliver {i : Nat} {conduct : Conduct} (eq : staffed crew s m = .deliver i conduct)
    (inputs : Dict Value) (phase : s.execution.phase? i = some (.working inputs)) :
    conduct = crew i inputs := by
  cases m with
  | deliver j conduct' =>
    simp only [staffed] at eq
    split at eq
    next inputs' phase' =>
      cases eq
      cases phase.symm.trans phase'
      rfl
    next idle =>
      cases eq
      exact absurd phase (idle inputs)
  | _ => cases eq

theorem staffed_signal (eq : staffed crew s m = .signal) : m = .signal := by
  cases m with
  | deliver j conduct =>
    simp only [staffed] at eq
    split at eq <;> cases eq
  | _ => exact eq

theorem mem_staffing_signal {moves : List Move} (member : .signal ∈ s.staffing crew moves) :
    .signal ∈ moves := by
  induction moves generalizing s with
  | nil => exact member
  | cons m rest ih =>
    rcases List.mem_cons.mp member with first | later
    · exact List.mem_cons.mpr (.inl (staffed_signal first.symm).symm)
    · exact List.mem_cons_of_mem m (ih later)

theorem isSome_step?_staffed (crew : Crew) (s : Shift) (m : Move) :
    (s.step? (staffed crew s m)).isSome = (s.step? m).isSome := by
  cases m with
  | deliver i conduct =>
    simp only [staffed]
    split <;> simp [step?]
  | _ => rfl

/-- What moves keep in which each stage does what it always does. -/
theorem runBy_induction {P : Shift → Prop} (moves : List Move) (start : P s)
    (step : ∀ {s s' : Shift} {m : Move}, m ∈ moves → P s → s.Happens (staffed crew s m) s' → P s') :
    P (s.runBy crew moves) := by
  induction moves generalizing s with
  | nil => exact start
  | cons m rest ih =>
    have first : P (s.act (staffed crew s m)) := by
      rcases s.act_cases (staffed crew s m) with ⟨-, same⟩ | happens
      · rwa [same]
      · exact step List.mem_cons_self start happens
    exact ih first (fun member => step (List.mem_cons_of_mem m member))

/-- Each move keeps the values what the stages make of them. -/
theorem IsSteady.isFaithful (steady : s.IsSteady) (plain : s.execution.graph.IsPlain)
    (h : s.execution.IsFaithful crew seed) (happens : s.Happens (staffed crew s m) s') :
    s'.execution.IsFaithful crew seed := by
  generalize eq : staffed crew s m = m' at happens
  cases happens with
  | look place => exact h.observe _
  | start place can =>
    obtain ⟨-, ⟨i, rest, queue⟩, -⟩ := queue_of_canStart can
    exact h.dispatch steady.consistent queue _
  | rest place cannot => exact h
  | acquire place free =>
    obtain ⟨-, i, rest, queue⟩ := queue_of_canDispatch (steady.queueing place).2
    exact h.dispatch steady.consistent queue _
  | enter phase => exact h.enter steady.consistent phase
  | deliver workspace => exact h.deliver steady.consistent plain workspace (staffed_deliver eq)
  | settle place ended => exact h.settle steady.consistent ended _
  | wake signalled can => exact h
  | signal => exact h
  | occupy enough => exact h
  | supply => exact h.supply _

/-- An execution that has ended with faithful values tells what visiting one stage after the other
does: both solve the equations of the graph, and these have one solution. -/
theorem IsSteady.tellsSame (steady : s.IsSteady) (faithful : s.execution.IsFaithful crew seed)
    (plain : s.execution.graph.IsPlain)
    (seeded : ∀ name, seed.contains name = true → s.execution.graph.attributes.contains name = true)
    (quiet : s.signalled = false) (active : s.execution.cancelled = false)
    (finished : s.place = .finished) (suffixes : Suffixes) :
    s.concluded.report.TellsSame
      ((Sequential.run s.execution.graph s.execution.id crew seed suffixes).report s.execution.id) := by
  -- Nothing runs and nothing is ready any more, so every report is final and every equation is
  -- closed.
  obtain ⟨none, idle⟩ : s.execution.inFlight = [] ∧ s.execution.ready = [] := by
    simpa [Execution.isOver, Execution.canDispatch, active] using steady.finished finished
  have concluded_ : s.concluded = s.execution.emit (Execution.endEvent s.execution.report) := by
    rw [concluded, quiet]
    exact Execution.conclude_of_final steady.consistent none idle
  have solved := faithful.isSolution none idle steady.consistent
  have final := faithful.isFinal none idle steady.consistent
  obtain ⟨reference, names, final'⟩ :=
    Sequential.run_isSolution plain s.execution.id crew seeded suffixes
  obtain ⟨values, fates⟩ := solved.unique plain reference
  have essence : s.execution.reports.map StageReport.essence =
      (Sequential.run s.execution.graph s.execution.id crew seed suffixes).reports.map
        StageReport.essence := by
    refine essence_eq_of_fate ?_ final final' (fun i lt => ?_)
    · rw [names, steady.consistent.stages]
    · rw [steady.consistent.length] at lt
      exact fates i lt
  rw [concluded_]
  refine tellsSame_of_essence values ?_ essence
  change s.execution.outcome = _
  rw [Execution.outcome, active, all_done_congr essence]
  rfl

/-! #### Runs -/

/-- What holds of a shift on a graph without internal slots as long as nobody tells it to stop. -/
structure IsStaffed (crew : Crew) (seed : Dict Value) (graph : Graph) (id : String) (s : Shift) :
    Prop where
  steady : s.IsSteady
  quiet : s.signalled = false
  active : s.execution.cancelled = false
  graph : s.execution.graph = graph
  id : s.execution.id = id
  faithful : s.execution.IsFaithful crew seed

theorem isStaffed_start {graph : Graph} (plain : graph.IsPlain) (config : ExecutorConfig)
    (id : String) (crew : Crew)
    (seeded : ∀ name, seed.contains name = true → graph.attributes.contains name = true)
    (suffixes : Suffixes) : (start config id graph seed suffixes).IsStaffed crew seed graph id :=
  ⟨isSteady_start plain.sound config id seed suffixes, rfl, cancelled_start .., graph_start ..,
    id_start .., Execution.isFaithful_start plain id seeded suffixes⟩

theorem IsStaffed.step {graph : Graph} {id : String} (h : s.IsStaffed crew seed graph id)
    (plain : graph.IsPlain) (calm : m ≠ .signal) (happens : s.Happens (staffed crew s m) s') :
    s'.IsStaffed crew seed graph id := by
  -- Putting the usual work in the place of some other makes no signal out of a move.
  have calm' : staffed crew s m ≠ .signal := fun eq => calm (staffed_signal eq)
  have kept : s'.execution.graph = s.execution.graph ∧ s'.execution.id = s.execution.id := by
    rcases happens.change h.steady with same | change
    · rw [same]
      exact ⟨rfl, rfl⟩
    · exact h.steady.consistent.change_graph change
  exact ⟨h.steady.step happens, (happens.signalled calm').trans h.quiet,
    (happens.cancelled h.steady (fun _ => h.quiet)).trans h.active, kept.1.trans h.graph, kept.2.trans h.id,
    h.steady.isFaithful (h.graph ▸ plain) h.faithful happens⟩

/-- An execution of an accepted graph without internal slots comes to its end as visiting one stage
after the other does, if its seed gives values to attributes only and each stage is a function of its
inputs. Only so many moves happen, and as long as it is not over one can, unless it waits for a permit
and others hold all of them; and when it is over, it has the values, the states and failures of
stages, the outcome and the summary of that visit, however many stages may run at once and whatever
order things happen in. -/
theorem runBy_eq_sequential {stages : List StageSpec} {attributes : Contract} {given : Suffixes}
    {graph : Graph} (accepted : graph.Accepts stages attributes given)
    (plain : ∀ spec ∈ stages, spec.IsPlain) {seed : Dict Value}
    (seeded : ∀ name, seed.contains name = true → attributes.contains name = true)
    (config : ExecutorConfig) (id : String) (crew : Crew) (suffixes : Suffixes)
    (moves : List Move) (uncancelled : .signal ∉ moves) :
    let first := start config id graph seed suffixes
    let s := first.runBy crew moves
    first.happenings (first.staffing crew moves) ≤ 8 * graph.size + graph.readCount + 2 ∧
      (s.place ≠ .finished → (∃ m : Move, m.isOwn = true ∧ (s.step? (staffed crew s m)).isSome = true) ∨
        s.place = .queueing ∧ max 1 config.maxConcurrency ≤ s.others) ∧
      (s.place = .finished →
        s.concluded.report.TellsSame ((Sequential.run graph id crew seed suffixes).report id)) := by
  intro first s
  have graphPlain := accepted.isPlain plain
  have seeded' : ∀ name, seed.contains name = true → graph.attributes.contains name = true := by
    rw [accepted.checked.sameAttributes]
    exact seeded
  have begun : first.IsStaffed crew seed graph id :=
    isStaffed_start graphPlain config id crew seeded' suffixes
  have now : s.IsStaffed crew seed graph id :=
    runBy_induction moves begun (fun member h happens =>
      h.step graphPlain (fun eq => uncancelled (eq ▸ member)) happens)
  refine ⟨?_, fun more => ?_, fun finished => ?_⟩
  -- The measure bounds what happens in any moves, and staffed ones are moves.
  · have silent : .signal ∉ first.staffing crew moves :=
      fun member => uncancelled (mem_staffing_signal member)
    have total := begun.steady.happenings_le_of_quiet rfl (cancelled_start ..) silent
    have bound := effort_start graph config id seed suffixes
    change first.effort ≤ _ at bound
    omega
  · have config_ : s.config = config :=
      runBy_induction (P := fun t => t.config = config) moves rfl
        (fun _ same happens => happens.config.trans same)
    refine (now.steady.progress more).imp (fun ⟨m, own, can⟩ => ⟨m, own, ?_⟩) (config_ ▸ ·)
    -- Whether a stage can end does not depend on what it does.
    rwa [isSome_step?_staffed]
  · have same := now.steady.tellsSame now.faithful (now.graph ▸ graphPlain)
      (now.graph ▸ seeded') now.quiet now.active finished suffixes
    rwa [now.graph, now.id] at same

/-- The first of two stages writes what the second one reads, and the second one fails. -/
def pairCrew : Crew := fun i _ =>
  if i = 0 then ⟨[("sheet", .string "A4")], none⟩ else ⟨[], some (.failed "no glue")⟩

theorem runBy_eq_sequential_pair :
    let seed : Dict Value := .ofList [("title", .string "Map")]
    let moves : List Move := [.look, .start default, .rest, .enter 0, .enter 0,
      .deliver 0 default, .settle 0 default, .look, .start default, .rest, .enter 1, .enter 1,
      .deliver 1 default, .settle 1 default, .look, .rest]
    let s := (start ⟨1⟩ "e" .pair seed .numbered).runBy pairCrew moves
    let reference := (Sequential.run .pair "e" pairCrew seed .numbered).report "e"
    Graph.pair.Accepts Graph.pairStages Graph.pairAttributes .numbered ∧
      (∀ spec ∈ Graph.pairStages, spec.IsPlain) ∧
      (∀ name, seed.contains name = true → Graph.pairAttributes.contains name = true) ∧
      .signal ∉ moves ∧ s.place = .finished ∧ s.concluded.report.TellsSame reference ∧
      reference.stages.map (·.state) = [.done, .failed] := by
  intro seed moves s reference
  have plain : ∀ spec ∈ Graph.pairStages, spec.IsPlain := by decide
  have seeded : ∀ name, seed.contains name = true → Graph.pairAttributes.contains name = true := by
    intro name member
    have title : name ∈ ["title"] := Dict.contains_iff_mem_keys.mp member
    rw [List.mem_singleton.mp title]
    decide
  have uncancelled : .signal ∉ moves := by simp [moves]
  have finished : s.place = .finished := by decide
  obtain ⟨-, -, same⟩ := runBy_eq_sequential Graph.pair_accepted plain seeded ⟨1⟩ "e" pairCrew
    .numbered moves uncancelled
  exact ⟨Graph.pair_accepted, plain, seeded, uncancelled, finished, same finished, by decide⟩

end Shift

end Printworks
