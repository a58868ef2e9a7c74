import Printworks.Proofs.Execution.Cancellation

/-!
# The events as a chronicle

Reports and events are written side by side: when a stage starts, when its end is taken note of, when
it is skipped behind a failure, and when it is skipped in the end. Each of these is a turn of a single
stage, and a turn tells exactly what it changes. So what has been told of a stage up to now is known
from its report, whatever the others do in between.
-/

namespace Printworks

namespace Event

/-- The stage that an event is about, if there is one. -/
def stage? (event : Event) : Option String :=
  match event with
  | stageStarted _ stage => some stage
  | stageCompleted _ stage _ => some stage
  | stageFailed _ stage _ => some stage
  | stageSkipped _ stage _ => some stage
  | _ => none

/-- How the execution has ended, for an event that tells of its end. -/
def outcome? (event : Event) : Option Outcome :=
  match event with
  | executionCompleted _ => some .completed
  | executionFailed _ _ => some .failed
  | executionCancelled _ => some .cancelled
  | _ => none

/-- What some events tell of a stage. -/
def about (stage : String) (events : List Event) : List Event :=
  events.filter (fun event => event.stage? == some stage)

variable {stage : String} {event : Event} {events : List Event}

theorem mem_about : event ∈ about stage events ↔ event ∈ events ∧ event.stage? = some stage := by
  simp [about]

theorem about_append (stage : String) (earlier later : List Event) :
    about stage (earlier ++ later) = about stage earlier ++ about stage later :=
  List.filter_append ..

theorem about_eq_nil (other : ∀ event ∈ events, event.stage? = none) :
    about stage events = [] := by
  apply List.filter_eq_nil_iff.mpr
  intro event member
  simp [other event member]

end Event

/-! ### One stage -/

namespace StageReport

/-- What may become of a stage at once, and what is told of it then. It ends with a result that is known
to be its own. -/
inductive Turn (id : String) (known : Except StageError (List String) → Prop) (r : StageReport) :
    List Event → StageReport → Prop
  | stays : Turn id known r [] r
  | ripens (waits : r.state = .waiting) : Turn id known r [] { r with state := .ready }
  | starts (ready : r.state = .ready) (now : Instant) :
      Turn id known r [.stageStarted id r.stage]
        { r with state := .running, startedAt := some now }
  | completes (runs : r.state = .running) {outputs : List String} (result : known (.ok outputs))
      (now : Instant) :
      Turn id known r [.stageCompleted id r.stage outputs]
        { r with state := .done, finishedAt := some now }
  | fails (runs : r.state = .running) {error : StageError} (result : known (.error error))
      (now : Instant) :
      Turn id known r [.stageFailed id r.stage error.message]
        { r with state := .failed, error := some error.message, finishedAt := some now }
  | dropsOut (pending : Execution.IsPendingState r.state) (reason : String) :
      Turn id known r [.stageSkipped id r.stage reason]
        { r with state := .skipped, error := some reason }

/-- What is told of a stage all in all that has ended or will not start: its start and its end, or that
it is skipped, as it is reported. -/
inductive Ends (id : String) (known : Except StageError (List String) → Prop) (r : StageReport) :
    List Event → Prop
  | completed (done : r.state = .done) (started : r.startedAt.isSome)
      (finished : r.finishedAt.isSome) {outputs : List String} (result : known (.ok outputs)) :
      Ends id known r [.stageStarted id r.stage, .stageCompleted id r.stage outputs]
  | failed (failed : r.state = .failed) (started : r.startedAt.isSome)
      (finished : r.finishedAt.isSome) {error : StageError} (reason : r.error = some error.message)
      (result : known (.error error)) :
      Ends id known r [.stageStarted id r.stage, .stageFailed id r.stage error.message]
  | skipped (skipped : r.state = .skipped) (unstarted : r.startedAt = none)
      (unfinished : r.finishedAt = none) {reason : String} (blame : r.error = some reason) :
      Ends id known r [.stageSkipped id r.stage reason]

/-- What is told of a stage all in all, at any time. -/
inductive Tells (id : String) (known : Except StageError (List String) → Prop) (r : StageReport) :
    List Event → Prop
  | nothing (pending : Execution.IsPendingState r.state) (unstarted : r.startedAt = none)
      (unfinished : r.finishedAt = none) : Tells id known r []
  | started (runs : r.state = .running) (started : r.startedAt.isSome)
      (unfinished : r.finishedAt = none) : Tells id known r [.stageStarted id r.stage]
  | ended {told : List Event} (ends : r.Ends id known told) : Tells id known r told

variable {id : String} {known known' : Except StageError (List String) → Prop} {r r' : StageReport}
  {told news : List Event}

theorem Turn.stage_eq (turn : r.Turn id known news r') : r'.stage = r.stage := by
  cases turn <;> rfl

namespace Ends

theorem mono (h : r.Ends id known told) (more : ∀ result, known result → known' result) :
    r.Ends id known' told := by
  cases h with
  | completed done started finished result => exact .completed done started finished (more _ result)
  | failed failed started finished reason result =>
    exact .failed failed started finished reason (more _ result)
  | skipped skipped unstarted unfinished blame => exact .skipped skipped unstarted unfinished blame

theorem state (h : r.Ends id known told) : r.state.isTerminal = true := by
  cases h with
  | completed state | failed state | skipped state => rw [state]; rfl

/-- A stage is told to have completed with the outputs that it has come to. -/
theorem result (h : r.Ends id known told) {outputs : List String}
    (member : .stageCompleted id r.stage outputs ∈ told) : known (.ok outputs) := by
  cases h with
  | @completed _ _ _ outputs' result =>
    have same : outputs = outputs' := by simpa using member
    rwa [same]
  | failed | skipped => simp at member

end Ends

namespace Tells

theorem mono (h : r.Tells id known told) (more : ∀ result, known result → known' result) :
    r.Tells id known' told := by
  cases h with
  | nothing pending unstarted unfinished => exact .nothing pending unstarted unfinished
  | started runs started unfinished => exact .started runs started unfinished
  | ended ends => exact .ended (ends.mono more)

/-- Of a stage that may still start nothing has been told. -/
theorem of_pending (h : r.Tells id known told) (pending : Execution.IsPendingState r.state) :
    told = [] ∧ r.startedAt = none ∧ r.finishedAt = none := by
  cases h with
  | nothing _ unstarted unfinished => exact ⟨rfl, unstarted, unfinished⟩
  | started runs => simp [Execution.IsPendingState, runs] at pending
  | ended ends =>
    have terminal := ends.state
    rcases pending with state | state <;> simp [state, StageState.isTerminal] at terminal

theorem of_running (h : r.Tells id known told) (runs : r.state = .running) :
    told = [.stageStarted id r.stage] ∧ r.startedAt.isSome ∧ r.finishedAt = none := by
  cases h with
  | nothing pending => simp [Execution.IsPendingState, runs] at pending
  | started _ started unfinished => exact ⟨rfl, started, unfinished⟩
  | ended ends =>
    have terminal := ends.state
    simp [runs, StageState.isTerminal] at terminal

theorem ends (h : r.Tells id known told) (terminal : r.state.isTerminal = true) :
    r.Ends id known told := by
  cases h with
  | nothing pending =>
    rcases pending with state | state <;> simp [state, StageState.isTerminal] at terminal
  | started runs => simp [runs, StageState.isTerminal] at terminal
  | ended ends => exact ends

end Tells

/-- A turn tells what it changes. -/
theorem Turn.tells (turn : r.Turn id known news r') (h : r.Tells id known told) :
    r'.Tells id known (told ++ news) := by
  -- A turn is taken from one state only, and that leaves one thing that has been told so far.
  cases turn with
  | stays => rwa [List.append_nil]
  | ripens waits =>
    obtain ⟨rfl, unstarted, unfinished⟩ := h.of_pending (.inl waits)
    exact .nothing (.inr rfl) unstarted unfinished
  | starts ready now =>
    obtain ⟨rfl, -, unfinished⟩ := h.of_pending (.inr ready)
    exact .started rfl rfl unfinished
  | completes runs result now =>
    obtain ⟨rfl, started, -⟩ := h.of_running runs
    refine .ended (.completed rfl ?_ rfl result)
    exact started
  | fails runs result now =>
    obtain ⟨rfl, started, -⟩ := h.of_running runs
    refine .ended (.failed rfl ?_ rfl rfl result)
    exact started
  | dropsOut pending reason =>
    obtain ⟨rfl, unstarted, unfinished⟩ := h.of_pending pending
    refine .ended (.skipped rfl ?_ ?_ rfl)
    · exact unstarted
    · exact unfinished

end StageReport

/-! ### All stages -/

namespace Execution

variable {known known' : Nat → Except StageError (List String) → Prop} {e e' : Execution}
  {news : List Event} {i j : Nat} {r : StageReport}

/-- Whether all that is told is told of stages of a graph. -/
def AreOfStages (graph : Graph) (events : List Event) : Prop :=
  ∀ event ∈ events, ∃ stage ∈ graph.stageNames, event.stage? = some stage

/-- Whether an execution goes on by one turn of each stage, and tells what these tell. -/
structure Turns (known : Nat → Except StageError (List String) → Prop) (news : List Event)
    (e e' : Execution) : Prop where
  id : e'.id = e.id
  graph : e'.graph = e.graph
  events : e'.events = e.events ++ news
  told : AreOfStages e.graph news
  reports : ∀ (j : Nat) r', e'.reports[j]? = some r' → ∃ r, e.reports[j]? = some r ∧
    r.Turn e.id (known j) (Event.about r.stage news) r'

/-- Whether the events of an execution begin with its start, and are about its stages from then on,
and tell of each stage what is reported of it. -/
structure IsChronicled (known : Nat → Except StageError (List String) → Prop) (e : Execution) :
    Prop where
  opening : ∃ others, e.events = .executionStarted e.id e.graph.size :: others ∧
    AreOfStages e.graph others
  stages : ∀ (j : Nat) r, e.reports[j]? = some r →
    r.Tells e.id (known j) (Event.about r.stage e.events)

theorem IsChronicled.mono (h : e.IsChronicled known)
    (more : ∀ j result, known j result → known' j result) : e.IsChronicled known' :=
  ⟨h.opening, fun j r found => (h.stages j r found).mono (more j)⟩

/-- The invariant of the run: what has been told goes on to tell the books after every change. -/
theorem IsChronicled.turns (h : e.IsChronicled known) (turns : e.Turns known news e') :
    e'.IsChronicled known := by
  refine ⟨?_, ?_⟩
  · obtain ⟨others, events, told⟩ := h.opening
    refine ⟨others ++ news, by rw [turns.events, events, turns.id, turns.graph]; rfl, ?_⟩
    rw [turns.graph]
    exact List.forall_mem_append.mpr ⟨told, turns.told⟩
  · intro j r' found
    obtain ⟨r, before, turn⟩ := turns.reports j r' found
    rw [turns.id, turns.events, turn.stage_eq, Event.about_append]
    exact turn.tells (h.stages j r before)

theorem isChronicled_start (id : String) (graph : Graph) (seed : Dict Value) (suffixes : Suffixes) :
    (start id graph seed suffixes).IsChronicled known := by
  have reports := getElem?_reports_start id graph seed suffixes
  have frame := start_frame id graph seed suffixes
  generalize start id graph seed suffixes = e at reports frame ⊢
  have events : e.events = [.executionStarted e.id e.graph.size] := by rw [frame]
  refine ⟨⟨[], events, by simp [AreOfStages]⟩, ?_⟩
  intro j r found
  rw [events, Event.about_eq_nil (by simp [Event.stage?])]
  rw [reports] at found
  have pending : IsPendingState r.state := (pending_of_start found).symm
  obtain ⟨spec, -, rfl⟩ := Option.map_eq_some_iff.mp found
  exact .nothing pending rfl rfl

/-! ### What a change tells of each stage -/

theorem stageName_eq (found : e.reports[i]? = some r) : e.stageName i = r.stage := by
  rw [stageName, found]
  rfl

theorem lt_of_isPending (pending : e.isPending i = true) : i < e.reports.length := by
  apply Classical.byContradiction
  intro outside
  simp [isPending_iff, state?, List.getElem?_eq_none (Nat.le_of_not_lt outside)] at pending

section

variable {stages : List Nat} {tell : Nat → Event} (inside : ∀ i ∈ stages, i < e.reports.length)
  (of : ∀ i, (tell i).stage? = some (e.stageName i))

include inside of

theorem areOfStages_map (names : e.reports.map (·.stage) = e.graph.stageNames) :
    AreOfStages e.graph (stages.map tell) := by
  intro event member
  obtain ⟨i, listed, rfl⟩ := List.mem_map.mp member
  have found := List.getElem?_eq_getElem (inside i listed)
  refine ⟨e.stageName i, ?_, of i⟩
  rw [← names, stageName_eq found]
  exact List.mem_map_of_mem (List.mem_of_getElem? found)

/-- Where some stages are told of by one event each, what is told of a stage is its own event, if it
is one of them. -/
theorem about_map (distinct : (e.reports.map (·.stage)).Nodup) (nodup : stages.Nodup)
    (found : e.reports[j]? = some r) :
    Event.about r.stage (stages.map tell) = if j ∈ stages then [tell j] else [] := by
  -- An event of the list is about the stage just in case it is its own.
  have only : ∀ i ∈ stages, ((tell i).stage? == some r.stage) = (i == j) := by
    intro i member
    have there := List.getElem?_eq_getElem (inside i member)
    rw [of i, stageName_eq there, Bool.eq_iff_iff, beq_iff_eq, beq_iff_eq, Option.some.injEq]
    constructor
    -- Names are told apart, so that the name of the stage is that of no other.
    · intro same
      apply (List.getElem?_inj (by simpa using inside i member) distinct).mp
      rw [List.getElem?_map, List.getElem?_map, there, found, Option.map_some, same, Option.map_some]
    · rintro rfl
      exact congrArg StageReport.stage (Option.some.inj (there.symm.trans found))
  have mine : stages.filter ((fun event => event.stage? == some r.stage) ∘ tell) =
      stages.filter (fun i => i == j) := List.filter_congr only
  rw [Event.about, List.filter_map, mine, List.filter_beq]
  by_cases member : j ∈ stages
  · rw [if_pos member, List.count_eq_one_of_mem nodup member]
    rfl
  · rw [if_neg member, List.count_eq_zero.mpr member]
    rfl

end

section

variable (names : e.reports.map (·.stage) = e.graph.stageNames) (distinct : e.graph.stageNames.Nodup)

include names distinct

/-- Some stages take a turn and are told of by one event each, and all others take one that is not
told of. -/
theorem turns_of_map (stages : List Nat) (nodup : stages.Nodup)
    (inside : ∀ i ∈ stages, i < e.reports.length) (tell : Nat → Event)
    (of : ∀ i, (tell i).stage? = some (e.stageName i)) (id : e'.id = e.id) (graph : e'.graph = e.graph)
    (events : e'.events = e.events ++ stages.map tell) {change : Nat → StageReport → StageReport}
    (reports : ∀ j : Nat, e'.reports[j]? = e.reports[j]?.map (change j))
    (each : ∀ (j : Nat) r, e.reports[j]? = some r →
      r.Turn e.id (known j) (if j ∈ stages then [tell j] else []) (change j r)) :
    e.Turns known (stages.map tell) e' := by
  refine ⟨id, graph, events, areOfStages_map inside of names, ?_⟩
  intro j r' found
  rw [reports] at found
  obtain ⟨r, before, rfl⟩ := Option.map_eq_some_iff.mp found
  refine ⟨r, before, ?_⟩
  rw [about_map inside of (names ▸ distinct) nodup before]
  exact each j r before

/-- One stage takes a turn that is told of. -/
theorem turns_of_one (found : e.reports[i]? = some r) (tell : Nat → Event)
    (of : ∀ i, (tell i).stage? = some (e.stageName i)) (id : e'.id = e.id) (graph : e'.graph = e.graph)
    (events : e'.events = e.events ++ [tell i]) {change : Nat → StageReport → StageReport}
    (reports : ∀ j : Nat, e'.reports[j]? = e.reports[j]?.map (change j))
    (own : r.Turn e.id (known i) [tell i] (change i r))
    (others : ∀ (j : Nat) (r : StageReport), j ≠ i → r.Turn e.id (known j) [] (change j r)) :
    e.Turns known [tell i] e' := by
  have inside : ∀ j ∈ [i], j < e.reports.length := by
    intro j member
    rw [List.mem_singleton.mp member]
    exact (List.getElem?_eq_some_iff.mp found).1
  refine turns_of_map names distinct [i] (List.nodup_singleton i) inside tell of id graph events
    reports ?_
  intro j r' found'
  by_cases eq : j = i
  · subst eq
    cases found.symm.trans found'
    rwa [if_pos List.mem_cons_self]
  · rw [if_neg (by simpa using eq)]
    exact others j r' eq

end

/-- A change that no stage takes part in. -/
theorem turns_of_sameBooks (same : SameBooks e e') (id : e'.id = e.id) (events : e'.events = e.events) :
    e.Turns known [] e' := by
  refine ⟨id, same.graph, by rw [events, List.append_nil], by simp [AreOfStages], ?_⟩
  intro j r found
  rw [same.reports] at found
  exact ⟨r, found, .stays⟩

/-- The stages that are skipped when one has failed. -/
def blocked (e : Execution) (i : Nat) : List Nat :=
  (e.graph.transitiveDependents i).filter (fun j => j ≠ i ∧ e.isPending j = true)

theorem mem_blocked :
    j ∈ e.blocked i ↔ j ∈ e.graph.transitiveDependents i ∧ j ≠ i ∧ e.isPending j = true := by
  simp [blocked]

/-- What is told of a stage that has failed, and of one that is skipped for that. -/
def failureEvent (e : Execution) (i : Nat) (message : String) (j : Nat) : Event :=
  if j = i then .stageFailed e.id (e.stageName j) message
  else .stageSkipped e.id (e.stageName j) (blockedReason (e.stageName i))

theorem stage?_failureEvent (e : Execution) (i : Nat) (message : String) (j : Nat) :
    (e.failureEvent i message j).stage? = some (e.stageName j) := by
  unfold failureEvent
  split <;> rfl

/-- The failure is told of first, and then what is skipped. -/
theorem map_failureEvent (message : String) : (i :: e.blocked i).map (e.failureEvent i message) =
    .stageFailed e.id (e.stageName i) message :: (e.blocked i).map
      (fun j => .stageSkipped e.id (e.stageName j) (blockedReason (e.stageName i))) := by
  rw [List.map_cons]
  refine congrArg₂ List.cons (if_pos rfl) (List.map_congr_left (fun j member => ?_))
  exact if_neg (mem_blocked.mp member).2.1

namespace IsConsistent

variable (books : e.IsConsistent) (now : Instant)

include books

theorem turns_dispatch {rest : List Nat} (queue : e.ready = i :: rest) :
    e.Turns known [.stageStarted e.id (e.stageName i)] (e.dispatch now) := by
  have ready : e.state? i = some .ready := (books.ready i).mp (by simp [queue])
  obtain ⟨r, found, state⟩ := Option.map_eq_some_iff.mp ready
  have frame := dispatch_of_ready queue now
  refine turns_of_one books.stages books.sound.names found
    (fun j => .stageStarted e.id (e.stageName j)) (fun _ => rfl) (by rw [frame]) (by rw [frame])
    (by rw [frame]) (reports_dispatch queue now) ?_ ?_
  · simp only [if_true, stageName_eq found]
    exact .starts state now
  · intro j r other
    rw [if_neg other]
    exact .stays

theorem turns_settle_ok {outputs : List String} (ended : e.phase? i = some (.ended (.ok outputs)))
    (result : known i (.ok outputs)) :
    e.Turns known [.stageCompleted e.id (e.stageName i) outputs] (e.settle i now) := by
  obtain ⟨r, found, runs⟩ := Option.map_eq_some_iff.mp (books.running ended)
  have done := isCompleted_settle now (books.sound.edges.dependents i) ended
  refine turns_of_one books.stages books.sound.names found
    (fun j => .stageCompleted e.id (e.stageName j) outputs) (fun _ => rfl) (by rw [done.frame])
    (by rw [done.frame]) (by rw [done.frame]) done.reports ?_ ?_
  · simp only [if_true, stageName_eq found]
    exact .completes runs result now
  · intro j r other
    rw [if_neg other]
    split
    next frees => exact .ripens frees.2.1
    next => exact .stays

theorem turns_settle_error {error : StageError} (ended : e.phase? i = some (.ended (.error error)))
    (result : known i (.error error)) : ∃ news, e.Turns known news (e.settle i now) := by
  obtain ⟨r, found, runs⟩ := Option.map_eq_some_iff.mp (books.running ended)
  have nodup := Graph.IsSound.nodup_transitiveDependents (g := e.graph) i
  have failed := isFailed_settle now nodup ended
  have apart : i ∉ e.blocked i := fun member => (mem_blocked.mp member).2.1 rfl
  have inside : ∀ j ∈ i :: e.blocked i, j < e.reports.length := by
    intro j member
    rcases List.mem_cons.mp member with rfl | skipped
    · exact (List.getElem?_eq_some_iff.mp found).1
    · exact lt_of_isPending (mem_blocked.mp skipped).2.2
  refine ⟨_, turns_of_map books.stages books.sound.names (i :: e.blocked i)
    (List.nodup_cons.mpr ⟨apart, nodup.filter _⟩) inside (e.failureEvent i error.message)
    (e.stage?_failureEvent i error.message) (by rw [failed.frame]) (by rw [failed.frame])
    (by rw [failed.events, map_failureEvent]; rfl) failed.reports ?_⟩
  intro j r' found'
  by_cases eq : j = i
  · subst eq
    cases found.symm.trans found'
    simp only [List.mem_cons_self, if_true, failureEvent, stageName_eq found]
    exact .fails runs result now
  · have same : j ∈ i :: e.blocked i ↔
        j ∈ e.graph.transitiveDependents i ∧ IsPendingState r'.state := by
      rw [List.mem_cons, mem_blocked, isPending_iff_report found']
      simp [eq]
    simp only [same, if_neg eq, failureEvent, stageName_eq found']
    split
    next blocks => exact .dropsOut blocks.2 _
    next => exact .stays

/-- Whatever happens to an execution, each of its stages takes one turn, and that is what is told. -/
theorem exists_turns (results : ∀ i result, e.phase? i = some (.ended result) → known i result)
    (change : e.Change e') : ∃ news, e.Turns known news e' := by
  cases change with
  | observe signalled => exact ⟨[], turns_of_sameBooks (sameBooks_observe e signalled) rfl rfl⟩
  | dispatch queue _ now => exact ⟨_, books.turns_dispatch now queue⟩
  | enter _ =>
    have frame := enter_frame e
    exact ⟨[], turns_of_sameBooks (sameBooks_enter e _) (by rw [frame]) (by rw [frame])⟩
  | deliver _ conduct => exact ⟨[], turns_of_sameBooks (sameBooks_deliver e _ _) rfl rfl⟩
  | @settle i result ended now =>
    cases result with
    | ok outputs => exact ⟨_, books.turns_settle_ok now ended (results i _ ended)⟩
    | error error => exact books.turns_settle_error now ended (results i _ ended)
  | supply suffixes => exact ⟨[], turns_of_sameBooks (sameBooks_supply e suffixes) rfl rfl⟩

end IsConsistent

/-! ### The conclusion -/

section

variable (names : e.reports.map (·.stage) = e.graph.stageNames) (distinct : e.graph.stageNames.Nodup)
  (idle : ∀ i, e.state? i ≠ some .running) (cancelled : Bool)

include names distinct idle

theorem exists_turns_closeStage (i : Nat) : ∃ news, e.Turns known news (closeStage cancelled e i) := by
  by_cases pending : e.isPending i = true
  · have found := List.getElem?_eq_getElem (lt_of_isPending pending)
    have closed : closeStage cancelled e i = skip (unreachedReason cancelled) e i := if_pos pending
    have kept := stageName_updateReport e i i
      (fun r => { r with state := .skipped, error := some (unreachedReason cancelled) })
      (fun _ => rfl)
    refine ⟨_, turns_of_one names distinct found
      (fun j => .stageSkipped e.id (e.stageName j) (unreachedReason cancelled)) (fun _ => rfl)
      (by rw [closed]; rfl) (by rw [closed]; rfl) (by rw [closed, skip, emit, kept]; rfl)
      (reports_closeStage cancelled (idle i)) ?_ ?_⟩
    · have waits := (isPending_iff_report found).mp pending
      simp only [if_true, stageName_eq found, StageReport.closed, waits]
      exact .dropsOut waits _
    · intro j r other
      rw [if_neg other]
      exact .stays
  -- A stage that is not pending has ended, since none runs, and is left as it is.
  · have same : closeStage cancelled e i = e := by
      rw [closeStage, if_neg pending, if_neg (idle i)]
    rw [same]
    exact ⟨[], turns_of_sameBooks ⟨rfl, rfl, rfl, rfl, rfl⟩ rfl rfl⟩

theorem IsChronicled.foldl_closeStage (h : e.IsChronicled known) (stages : List Nat) :
    (stages.foldl (closeStage cancelled) e).IsChronicled known := by
  induction stages generalizing e with
  | nil => exact h
  | cons i rest ih =>
    obtain ⟨news, turns⟩ : ∃ news, e.Turns known news (closeStage cancelled e i) :=
      exists_turns_closeStage names distinct idle cancelled i
    have same := (names_of_map (reports_closeStage cancelled (idle i)) (by
      intro j r
      split
      next => exact stage_closed r cancelled
      next => rfl)).1
    exact ih (by rw [same, turns.graph, names]) (turns.graph ▸ distinct)
      (idle_closeStage cancelled idle i) (h.turns turns)

/-- The conclusion tells what it skips, and then how the execution has ended. -/
theorem IsChronicled.conclude (h : e.IsChronicled known) (signalled : Bool) :
    ∃ before : Execution, before.IsChronicled known ∧
      e.conclude signalled = before.emit (endEvent before.report) := by
  have observed : (e.observe signalled).IsChronicled known := ⟨h.opening, h.stages⟩
  exact ⟨_, IsChronicled.foldl_closeStage (e := e.observe signalled) names distinct idle _ observed _,
    rfl⟩

end

theorem outcome?_endEvent (report : ExecutionReport) :
    (endEvent report).outcome? = some report.outcome := by
  unfold endEvent
  cases report.outcome <;> rfl

theorem AreOfStages.silent {graph : Graph} {events : List Event} (h : AreOfStages graph events) :
    events.filterMap Event.outcome? = [] := by
  apply List.filterMap_eq_nil_iff.mpr
  intro event member
  obtain ⟨stage, -, about⟩ := h event member
  cases event <;> first | rfl | cases about

/-- The end is told of once, and after all that is told of stages. -/
theorem IsChronicled.emit_endEvent (h : e.IsChronicled known) :
    let after := e.emit (endEvent e.report)
    (∃ others, after.events =
        .executionStarted e.id e.graph.size :: (others ++ [endEvent e.report]) ∧
      AreOfStages e.graph others) ∧
    after.events.filterMap Event.outcome? = [e.report.outcome] ∧
    ∀ (j : Nat) r, e.reports[j]? = some r →
      r.Tells e.id (known j) (Event.about r.stage after.events) := by
  intro after
  obtain ⟨others, events, told⟩ := h.opening
  have all : after.events =
      .executionStarted e.id e.graph.size :: (others ++ [endEvent e.report]) := by
    rw [← List.cons_append, ← events]
    rfl
  refine ⟨⟨others, all, told⟩, ?_, ?_⟩
  · rw [all, List.filterMap_cons_none rfl, List.filterMap_append, told.silent, List.nil_append,
      List.filterMap_cons_some (outcome?_endEvent e.report), List.filterMap_nil]
  · intro j r found
    have ends : (endEvent e.report).stage? = none := by
      unfold endEvent
      split <;> rfl
    have quiet : Event.about r.stage [endEvent e.report] = [] :=
      Event.about_eq_nil (by simpa using ends)
    change r.Tells e.id (known j) (Event.about r.stage (e.events ++ [endEvent e.report]))
    rw [Event.about_append, quiet, List.append_nil]
    exact h.stages j r found

end Execution

namespace Shift

variable {first s s' : Shift} {m : Move} {moves : List Move} {seed : Dict Value} {i : Nat}
  {name : String} {value : Value}

/-- What has been told of an execution tells its books, at any time. -/
theorem isChronicled_run {graph : Graph} (sound : graph.IsSound) (config : ExecutorConfig)
    (id : String) (seed : Dict Value) (suffixes : Suffixes) (moves : List Move) :
    ((start config id graph seed suffixes).run moves).execution.IsChronicled
      ((start config id graph seed suffixes).HasYielded moves) := by
  induction moves using List.reverseRecOn with
  | nil => exact Execution.isChronicled_start id graph seed suffixes
  | append_singleton moves m ih =>
    have steady := (isSteady_start sound config id seed suffixes).run moves
    have grounded := isGrounded_run sound config id seed suffixes moves
    have more : ∀ i result, (start config id graph seed suffixes).HasYielded moves i result →
        (start config id graph seed suffixes).HasYielded (moves ++ [m]) i result :=
      fun i result known => hasYielded_concat.mpr (.inl known)
    rw [run_concat]
    apply Execution.IsChronicled.mono _ more
    generalize (start config id graph seed suffixes).run moves = s at *
    rcases s.act_cases m with ⟨-, same⟩ | happens
    · rwa [same]
    · rcases happens.change steady with same | change
      · rwa [same]
      -- The results that the change takes note of are those that moves have given by then.
      · obtain ⟨news, turns⟩ := steady.consistent.exists_turns grounded.ended change
        exact ih.turns turns

/-! ### Names that a stage adds -/

/-- Whether a move gives a value to a name that has had none. -/
def Adds (s : Shift) (m : Move) (name : String) (value : Value) : Prop :=
  s.execution.context.values.get? name = none ∧
    (s.act m).execution.context.values.get? name = some value

/-- Whether a stage has added a value when it has ended. -/
def HasAdded (first : Shift) (moves : List Move) (i : Nat) (name : String) (value : Value) : Prop :=
  ∃ earlier conduct later, moves = earlier ++ .deliver i conduct :: later ∧
    (first.run earlier).Adds (.deliver i conduct) name value

theorem act_deliver {w : Workspace} (workspace : s.execution.workspace? i = some w)
    (conduct : Conduct) : (s.act (.deliver i conduct)).execution.context =
      (Execution.stored s.execution.context (conduct.play w)).2 := by
  rw [act, step?, workspace]
  rfl

namespace IsKept

variable {log : Nat → String → Value → Prop} (h : s.IsKept seed log) {conduct : Conduct}

include h

/-- The names of what a stage ends with have had no values. -/
theorem get?_of_outcome {w : Workspace} (workspace : s.execution.workspace? i = some w)
    {outputs : Dict Value} (ends : conduct.outcome w = .ok outputs)
    (mine : name ∈ outputs.keys.map w.spec.outputName) :
    s.execution.context.values.get? name = none := by
  obtain ⟨slot, inside, rfl⟩ := List.mem_map.mp mine
  obtain ⟨e, member, rfl⟩ := List.mem_map.mp inside
  obtain ⟨spec, inputs, place, phase, rfl⟩ := phase?_of_workspace? workspace
  have busy := h.steady.consistent.not_hasDelivered phase (by simp)
  exact h.traced.free h.named h.seeded busy place
    (Conduct.outcome_declared (Workspace.isDeclared_start _ spec inputs) ends e member)

/-- What a stage adds to the values is what it stores. -/
theorem adds_iff : s.Adds (.deliver i conduct) name value ↔
    s.Stores (.deliver i conduct) i name value := by
  constructor
  · rintro ⟨unused, found⟩
    cases workspace : s.execution.workspace? i with
    | none =>
      rw [act, step?, workspace] at found
      cases unused.symm.trans found
    | some w =>
      have stored := h.stored_play workspace conduct
      rw [act_deliver workspace, stored] at found
      cases ends : conduct.outcome w with
      | error error =>
        rw [ends] at found
        cases unused.symm.trans found
      | ok outputs =>
        rw [ends] at stored found
        refine ⟨conduct, w, _, _, rfl, workspace, stored, ?_, found⟩
        apply Classical.byContradiction
        intro other
        -- Under any other name there is what has been there before.
        have left : (w.spec.keep outputs s.execution.context.values).get? name = none := by
          rw [StageSpec.get?_keep_of_not_mem (h.separates workspace ends) other, unused]
        cases left.symm.trans found
  · rintro ⟨conduct, w, names, after, eq, workspace, stored, mine, found⟩
    cases eq
    refine ⟨?_, by rwa [act_deliver workspace, stored]⟩
    rw [h.stored_play workspace] at stored
    cases ends : conduct.outcome w with
    | error error => simp [ends] at stored
    | ok outputs =>
      rw [ends] at stored
      cases stored
      exact h.get?_of_outcome workspace ends mine

end IsKept

section

variable {stages : List StageSpec} {attributes : Contract} {given : Suffixes} {graph : Graph}
  (accepted : graph.Accepts stages attributes given)
  (seeded : ∀ name, seed.contains name = true → attributes.contains name = true)
  (config : ExecutorConfig) (id : String) (suffixes : Suffixes)

include accepted seeded

theorem run_hasAdded : (start config id graph seed suffixes).HasAdded moves i name value ↔
    ∃ spec outputs slot, graph.stages[i]? = some spec ∧
      (start config id graph seed suffixes).Delivers moves i outputs ∧
      outputs.get? slot = some value ∧ spec.outputName slot = name := by
  have kept := isKept_run accepted seeded config id suffixes
  have sameGraph := graph_run accepted.isSound config id seed suffixes
  constructor
  · rintro ⟨earlier, conduct, later, split, adds⟩
    obtain ⟨spec, outputs, slot, place, ends, found⟩ :=
      (kept earlier).stores_iff.mp ((kept earlier).adds_iff.mp adds)
    rw [sameGraph] at place
    exact ⟨spec, outputs, slot, place, ⟨earlier, _, later, split, ends⟩, found⟩
  · rintro ⟨spec, outputs, slot, place, ⟨earlier, m, later, split, ends⟩, found⟩
    rw [← sameGraph earlier] at place
    have stores := (kept earlier).stores_iff.mpr ⟨spec, outputs, slot, place, ends, found⟩
    obtain ⟨conduct, -, rfl, -⟩ := ends
    exact ⟨earlier, conduct, later, split, (kept earlier).adds_iff.mpr stores⟩

/-- A stage that has come to store something has ended with outputs, and has stored each of them under
its name. -/
theorem run_yielded_ok {names : List String}
    (yielded : (start config id graph seed suffixes).HasYielded moves i (.ok names)) :
    ∃ spec outputs, graph.stages[i]? = some spec ∧
      (start config id graph seed suffixes).Delivers moves i outputs ∧
      names = outputs.keys.map spec.outputName ∧ names.Nodup := by
  obtain ⟨earlier, conduct, later, w, after, split, workspace, stored, -⟩ :=
    yielded.stored (isSteady_start accepted.isSound config id seed suffixes)
  have kept := isKept_run accepted seeded config id suffixes earlier
  obtain ⟨spec, inputs, place, -, same⟩ := phase?_of_workspace? workspace
  rw [graph_run accepted.isSound] at place
  cases ends : conduct.outcome w with
  | error error => simp [kept.stored_play workspace, ends] at stored
  | ok outputs =>
    rw [kept.stored_play workspace, ends] at stored
    cases stored
    refine ⟨spec, outputs, place, ⟨earlier, _, later, split, conduct, w, rfl, workspace, ends⟩,
      by rw [same]; rfl, ?_⟩
    apply List.Nodup.map_on _ outputs.keys_nodup
    intro slot inside slot' inside' clash
    obtain ⟨e, member, rfl⟩ := List.mem_map.mp inside
    obtain ⟨e', member', rfl⟩ := List.mem_map.mp inside'
    exact kept.separates workspace ends e member e' member' clash

/-- The names that a stage has stored its outputs under are those that it has added. -/
theorem run_yielded_names {names : List String}
    (yielded : (start config id graph seed suffixes).HasYielded moves i (.ok names)) :
    names.Nodup ∧ ∀ name, name ∈ names ↔
      ∃ value, (start config id graph seed suffixes).HasAdded moves i name value ∧
        ((start config id graph seed suffixes).run moves).execution.context.values.get? name =
          some value := by
  obtain ⟨spec, outputs, place, delivers, rfl, nodup⟩ :=
    run_yielded_ok accepted seeded config id suffixes yielded
  refine ⟨nodup, fun name => ⟨?_, ?_⟩⟩
  · intro member
    obtain ⟨slot, inside, rfl⟩ := List.mem_map.mp member
    obtain ⟨value, found⟩ := Option.isSome_iff_exists.mp (Dict.mem_keys.mp inside)
    exact ⟨value,
      (run_hasAdded accepted seeded config id suffixes).mpr
        ⟨spec, outputs, slot, place, delivers, found, rfl⟩,
      (run_values accepted seeded config id suffixes moves _ value).mpr
        (.inr ⟨i, spec, outputs, slot, place, delivers, found, rfl⟩)⟩
  · rintro ⟨value, added, -⟩
    obtain ⟨spec', outputs', slot, place', delivers', found, rfl⟩ :=
      (run_hasAdded accepted seeded config id suffixes).mp added
    -- A stage ends once, so that these are the outputs in question.
    cases place.symm.trans place'
    cases run_delivers_unique accepted seeded config id suffixes moves delivers delivers'
    exact List.mem_map_of_mem (Dict.mem_keys.mpr (by rw [found]; rfl))

end

/-! ### The whole run -/

/-- When an execution is over no stage is left that may still start or that runs. -/
theorem isTerminal_of_concluded (steady : s.IsSteady) (finished : s.place = .finished)
    {r : StageReport} (found : s.concluded.report.stages[i]? = some r) :
    r.state.isTerminal = true := by
  have idle := idle_of_finished steady finished
  have reports := Execution.reports_conclude s.signalled idle i
  obtain ⟨before, there, rfl⟩ := Option.map_eq_some_iff.mp (reports.symm.trans found)
  rw [Execution.state_closed]
  cases state : before.state with
  | waiting | ready | skipped => simp [Execution.IsPendingState, StageState.isTerminal]
  | running =>
    have runs : s.execution.state? i = some .running := by rw [Execution.state?, there, ← state]; rfl
    exact absurd runs (idle i)
  | done | failed => simp [Execution.IsPendingState, StageState.isTerminal]

/-- No stage starts in the end, so that what holds of the starts before holds of all of them. -/
theorem order_of_concluded (told : s.execution.IsTold) {i p : Nat}
    (edge : p ∈ s.execution.graph.predecessors i) {earlier later : List Event}
    (split : s.concluded.events =
      earlier ++ .stageStarted s.execution.id (s.execution.stageName i) :: later) :
    ∃ outputs, .stageCompleted s.execution.id (s.execution.stageName p) outputs ∈ earlier := by
  obtain ⟨news, events, silent⟩ := Execution.startsNone_conclude s.execution s.signalled
  rcases append_eq_append_cons (events.symm.trans split) with ⟨rest, before⟩ | ⟨more, -, after⟩
  · exact told.before i p edge earlier rest before
  · have member : .stageStarted s.execution.id (s.execution.stageName i) ∈ news := by
      rw [after]
      simp
    exact absurd member (silent _ _)

/-- Whether the events of an execution that is over tell of it as it was. -/
structure Recounts (first : Shift) (moves : List Move) (graph : Graph) (after : Execution) : Prop where
  id : after.id = first.execution.id
  /-- The start is told of first and the end last, and what comes in between is about stages. -/
  opening : ∃ others, after.events = .executionStarted after.id graph.size ::
    (others ++ [Execution.endEvent after.report]) ∧ Execution.AreOfStages graph others
  /-- One event alone tells how the execution has ended, and it does so as the report does. -/
  ending : after.events.filterMap Event.outcome? = [after.report.outcome]
  stages : after.report.stages.map (·.stage) = graph.stageNames
  told : ∀ (i : Nat) r, after.report.stages[i]? = some r →
    r.Ends after.id (first.HasYielded moves i) (Event.about r.stage after.events)
  /-- A stage starts after all that it waits for has completed. -/
  order : ∀ (i p : Nat) r q, after.report.stages[i]? = some r → after.report.stages[p]? = some q →
    p ∈ graph.predecessors i → ∀ earlier later,
      after.events = earlier ++ .stageStarted after.id r.stage :: later →
        ∃ outputs, .stageCompleted after.id q.stage outputs ∈ earlier
  /-- A stage is told to have completed with the names that it has added to the values. -/
  outputs : ∀ (i : Nat) r names, after.report.stages[i]? = some r →
    .stageCompleted after.id r.stage names ∈ after.events → names.Nodup ∧
      ∀ name, name ∈ names ↔ ∃ value, first.HasAdded moves i name value ∧
        after.report.values.get? name = some value

/-- The events of an execution of an accepted graph tell the whole of it, once it is over, whatever its
stages do, in whichever order things happen, and whether or not it is told to stop. -/
theorem run_recounts {stages : List StageSpec} {attributes : Contract} {given : Suffixes}
    {graph : Graph} (accepted : graph.Accepts stages attributes given)
    (seeded : ∀ name, seed.contains name = true → attributes.contains name = true)
    (config : ExecutorConfig) (id : String) (suffixes : Suffixes) (moves : List Move)
    (finished : ((start config id graph seed suffixes).run moves).place = .finished) :
    (start config id graph seed suffixes).Recounts moves graph
      ((start config id graph seed suffixes).run moves).concluded := by
  have steady := (isSteady_start accepted.isSound config id seed suffixes).run moves
  have chronicled := isChronicled_run accepted.isSound config id seed suffixes moves
  have told := isTold_run accepted.isSound config id seed suffixes moves
  have rests := comesToRest_run accepted config id seed suffixes moves finished
  obtain ⟨-, sameId⟩ :=
    (isSteady_start accepted.isSound config id seed suffixes).run_graph moves
  have sameGraph := graph_run accepted.isSound config id seed suffixes moves
  have names {i : Nat} {names : List String} (yielded : (start config id graph seed suffixes).HasYielded
      moves i (.ok names)) := run_yielded_names accepted seeded config id suffixes yielded
  generalize (start config id graph seed suffixes).run moves = s at *
  obtain ⟨keptId, context⟩ := concluded_frame s
  -- What has been told up to the last event is of stages, and the last one is of none.
  obtain ⟨before, recorded, last⟩ := chronicled.conclude steady.consistent.stages
    steady.consistent.sound.names (idle_of_finished steady finished) s.signalled
  have last : s.concluded = before.emit (Execution.endEvent before.report) := last
  obtain ⟨opening, ending, tells⟩ := recorded.emit_endEvent
  have graph_ : before.graph = graph := by
    obtain ⟨_, _, frame⟩ := Execution.conclude_frame s.execution s.signalled
    have kept : s.concluded.graph = s.execution.graph := by rw [concluded, frame]; rfl
    rw [last] at kept
    exact kept.trans sameGraph
  have ends : ∀ (i : Nat) r, s.concluded.report.stages[i]? = some r →
      r.Ends s.concluded.id ((start config id graph seed suffixes).HasYielded moves i)
        (Event.about r.stage s.concluded.events) := by
    intro i r found
    have terminal := isTerminal_of_concluded steady finished found
    rw [last] at found ⊢
    exact (tells i r found).ends terminal
  refine ⟨keptId.trans sameId, ?_, ?_, rests.stages, ends, ?_, ?_⟩
  · rw [last, ← graph_]
    exact opening
  · rw [last]
    exact ending
  · intro i p r q found found' edge earlier later split
    obtain ⟨_, there, -, rfl, -⟩ := exists_report_of_concluded steady told finished found
    obtain ⟨_, there', -, rfl, -⟩ := exists_report_of_concluded steady told finished found'
    rw [Execution.stage_closed, keptId, ← Execution.stageName_eq there] at split
    rw [Execution.stage_closed, keptId, ← Execution.stageName_eq there']
    exact order_of_concluded told (sameGraph ▸ edge) split
  · intro i r outputs found member
    -- The names that are told are those of a result that the stage has come to.
    have mine : .stageCompleted s.concluded.id r.stage outputs ∈
        Event.about r.stage s.concluded.events := Event.mem_about.mpr ⟨member, rfl⟩
    obtain ⟨nodup, iff⟩ := names ((ends i r found).result mine)
    refine ⟨nodup, fun name => (iff name).trans ?_⟩
    change _ ↔ ∃ value, _ ∧ s.concluded.context.values.get? name = _
    rw [context]

/-- The first of two stages is told to have completed with its sheet, and the second is skipped since
the signal has come. -/
theorem run_recounts_pair :
    let seed : Dict Value := .ofList [("title", .string "Map")]
    let first := start ⟨1⟩ "e" .pair seed .numbered
    let moves : List Move := [.look, .start default, .rest, .enter 0, .enter 0, .signal, .wake, .look,
      .rest, .deliver 0 ⟨[("sheet", .string "A1")], none⟩, .settle 0 default, .look, .rest]
    Graph.pair.Accepts Graph.pairStages Graph.pairAttributes .numbered ∧
      (∀ name, seed.contains name = true → Graph.pairAttributes.contains name = true) ∧
      (first.run moves).place = .finished ∧
      first.Recounts moves .pair (first.run moves).concluded ∧
      (first.run moves).concluded.events = [.executionStarted "e" 2, .stageStarted "e" "draw",
        .stageCompleted "e" "draw" ["sheet"], .stageSkipped "e" "bind" "execution cancelled",
        .executionCancelled "e"] := by
  intro seed first moves
  have seeded : ∀ name, seed.contains name = true → Graph.pairAttributes.contains name = true := by
    intro name member
    have title : name ∈ ["title"] := Dict.contains_iff_mem_keys.mp member
    rw [List.mem_singleton.mp title]
    decide
  have finished : (first.run moves).place = .finished := by decide
  exact ⟨Graph.pair_accepted, seeded, finished,
    run_recounts Graph.pair_accepted seeded ⟨1⟩ "e" .numbered moves finished, by decide⟩

end Shift

end Printworks
