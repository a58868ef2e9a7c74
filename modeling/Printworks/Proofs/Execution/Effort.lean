import Mathlib.Algebra.Order.BigOperators.Group.List
import Mathlib.Algebra.Order.Group.Nat
import Printworks.Proofs.Execution.Moves

/-!
# Executions come to an end

Each move that an execution makes brings it nearer to its end, whatever order its stages end in, so
that only so many moves can happen. As long as the execution is not over there is one that can, unless
others hold all permits and it waits for one of them.
-/

namespace Printworks

/-- How many inputs all stages read. -/
def Graph.readCount (g : Graph) : Nat := ((List.range g.size).map g.inputCount).sum

/-- What is left to do for a stage, counted in moves: each of its inputs takes one. A stage that has
not started may also send the one that runs the execution back to look at the signal. -/
def Execution.weight (e : Execution) (i : Nat) : Nat :=
  match e.phase? i with
  | some (.dispatched _ count) => 5 + (e.graph.inputCount i - count)
  | some (.working _) => 4
  | some (.ended _) => 3
  | none => if e.isPending i then 8 + e.graph.inputCount i else 0

/-- Whether a move is made by the execution or one of its stages. -/
def Move.isOwn (m : Move) : Bool :=
  match m with
  | .signal => false
  | .occupy _ => false
  | .supply _ => false
  | _ => true

/-- What is left to do before stages are started or waited for. -/
def Place.weight (p : Place) : Nat :=
  match p with
  | .looking => 2
  | .starting => 1
  | _ => 0

namespace Shift

variable {s s' : Shift} {m : Move}

/-- How many moves the execution can still make. -/
def effort (s : Shift) : Nat :=
  ((List.range s.execution.graph.size).map s.execution.weight).sum + s.place.weight

/-- How many moves the signal may still add: the one that runs the execution wakes up, and looks at
it. -/
def reserve (s : Shift) : Nat :=
  if s.execution.cancelled || s.signalled && s.place == .looking then 0 else 3

/-- How many of some moves happen and are made by the execution. -/
def happenings (s : Shift) (moves : List Move) : Nat :=
  match moves with
  | [] => 0
  | m :: rest =>
    (if m.isOwn && (s.step? m).isSome then 1 else 0) + (s.act m).happenings rest

/-! ### What is left to do -/

theorem sum_map_add_le {l : List Nat} {i : Nat} (member : i ∈ l) {before after : Nat → Nat}
    (le : ∀ j, after j ≤ before j) {k : Nat} (drop : after i + k ≤ before i) :
    (l.map after).sum + k ≤ (l.map before).sum := by
  induction l with
  | nil => cases member
  | cons j rest ih =>
    simp only [List.map_cons, List.sum_cons]
    rcases List.mem_cons.mp member with rfl | there
    · have others : (rest.map after).sum ≤ (rest.map before).sum :=
        List.sum_le_sum (fun j _ => le j)
      omega
    · have first := le j
      have others := ih there
      omega

/-- A change that leaves no stage more to do and one stage less. -/
theorem effort_le {e : Execution} {place : Place} (graph : e.graph = s.execution.graph) {i k : Nat}
    (inside : i < s.execution.graph.size) (le : ∀ j, j ≠ i → e.weight j ≤ s.execution.weight j)
    (drop : e.weight i + k ≤ s.execution.weight i) (left : place.weight + 1 ≤ k + s.place.weight) :
    effort { s with execution := e, place := place } + 1 ≤ s.effort := by
  have all (j : Nat) : e.weight j ≤ s.execution.weight j := by
    by_cases eq : j = i
    · subst eq
      omega
    · exact le j eq
  have sum := sum_map_add_le (List.mem_range.mpr inside) all drop
  -- What the stage has less to do outweighs what may have to be done before others are started.
  simp only [effort, graph]
  omega

end Shift

namespace Execution

variable {e : Execution}

theorem weight_of_dispatched {i : Nat} {read : Dict Value} {count : Nat}
    (phase : e.phase? i = some (.dispatched read count)) :
    e.weight i = 5 + (e.graph.inputCount i - count) := by
  simp only [weight, phase]

theorem weight_of_working {i : Nat} {inputs : Dict Value}
    (phase : e.phase? i = some (.working inputs)) : e.weight i = 4 := by
  simp only [weight, phase]

theorem weight_of_ended {i : Nat} {result : Except StageError (List String)}
    (phase : e.phase? i = some (.ended result)) : e.weight i = 3 := by
  simp only [weight, phase]

theorem weight_congr {e' : Execution} {i : Nat} (graph : e'.graph = e.graph)
    (phase : e'.phase? i = e.phase? i)
    (pending : e'.isPending i = true → e.isPending i = true) : e'.weight i ≤ e.weight i := by
  simp only [weight, phase, graph]
  cases e.phase? i with
  | some p => cases p <;> exact le_refl _
  | none =>
    by_cases after : e'.isPending i = true
    · simp [after, pending after]
    · simp [after]

theorem weight_setPhase {i j : Nat} {new : Phase} (ne : j ≠ i) :
    (e.setPhase i new).weight j ≤ e.weight j := by
  refine weight_congr rfl ?_ (fun pending => pending)
  rw [phase?_setPhase, if_neg ne]

/-- To read one more input, or to have read them all, leaves a stage less to do. -/
theorem weight_proceed {i : Nat} {spec : StageSpec} {values read : Dict Value} {count : Nat}
    {new : Phase} (place : e.graph.stages[i]? = some spec)
    (phase : e.phase? i = some (.dispatched read count))
    (proceeds : spec.Proceeds values read count new) :
    (e.setPhase i new).weight i + 1 ≤ e.weight i := by
  have now : (e.setPhase i new).phase? i = some new := by rw [phase?_setPhase_of phase, if_pos rfl]
  rw [weight_of_dispatched phase]
  cases proceeds with
  -- There is one input less to read, since there has been one.
  | reads here =>
    have inside : count < spec.inputs.slots.length := (List.getElem?_eq_some_iff.mp here).1
    have size : e.graph.inputCount i = spec.inputs.slots.length := by
      rw [Graph.inputCount, place, Option.elim_some]
    have after := weight_of_dispatched now
    change _ = 5 + (e.graph.inputCount i - (count + 1)) at after
    omega
  | works _ _ =>
    rw [weight_of_working now]
    omega
  | refuses _ _ =>
    rw [weight_of_ended now]
    omega

/-- Taking note of an end leaves nothing to do for the stage and no more for others. -/
theorem IsConsistent.weight_settle (h : e.IsConsistent) {i : Nat}
    {result : Except StageError (List String)} (ended : e.phase? i = some (.ended result))
    (now : Instant) :
    (e.settle i now).weight i = 0 ∧ ∀ j, j ≠ i → (e.settle i now).weight j ≤ e.weight j := by
  have running := h.running ended
  have phases := phase?_filter (h.inFlight_settle ended now)
  have self : (e.settle i now).isPending i = false ∧
      ∀ j, j ≠ i → (e.settle i now).isPending j = true → e.isPending j = true := by
    cases result with
    -- Stages become ready or are skipped, but none becomes pending that was not.
    | ok outputs =>
      have done := isCompleted_settle now (h.sound.edges.dependents i) ended
      refine ⟨by simp [isPending, done.state? running], fun j ne after => ?_⟩
      rw [isPending_iff, done.state? running, if_neg ne] at after
      by_cases frees : IsCompleted.Frees e i j
      · exact isPending_iff.mpr (.inl frees.2.1)
      · rw [if_neg frees] at after
        exact isPending_iff.mpr after
    | error error =>
      have failed := isFailed_settle now (Graph.IsSound.nodup_transitiveDependents i) ended
      refine ⟨by simp [isPending, failed.state?_self running], fun j ne after => ?_⟩
      by_cases blocks : IsFailed.Blocks e i j
      · exact blocks.2
      · rwa [isPending_iff, failed.state?_of_free h.sound ne blocks, ← isPending_iff] at after
  constructor
  · simp [weight, phases, self.1]
  · intro j ne
    obtain ⟨_, _, _, _, _, frame⟩ := h.settle_frame ended now
    exact weight_congr (by rw [frame]) (by rw [phases, if_neg ne]) (self.2 j ne)

end Execution

namespace Shift

variable {s s' : Shift} {m : Move}

/-! ### Only so many moves -/

theorem IsSteady.effort_dispatch (h : s.IsSteady) {i : Nat} {rest : List Nat}
    (queue : s.execution.ready = i :: rest) (now : Instant) {place : Place}
    (left : place.weight ≤ 2 + s.place.weight) :
    effort { s with execution := s.execution.dispatch now, place := place } + 1 ≤ s.effort := by
  have ready : s.execution.state? i = some .ready := (h.consistent.ready i).mp (by simp [queue])
  have fresh := h.consistent.not_mem_inFlight queue
  have phases := Execution.phase?_dispatch queue fresh now
  have graph : (s.execution.dispatch now).graph = s.execution.graph := by
    rw [Execution.dispatch_of_ready queue]
  refine effort_le (k := 3) (i := i) graph
    (h.consistent.exists_state.mpr ⟨_, ready⟩) ?_ ?_ (by omega)
  · intro j ne
    refine Execution.weight_congr graph (by rw [phases, if_neg ne]) (fun after => ?_)
    rwa [Execution.isPending_iff, Execution.state?_dispatch queue, if_neg ne,
      ← Execution.isPending_iff] at after
  · have idle : s.execution.phase? i = none := h.consistent.phase?_eq_none (by simp [ready])
    have pending : s.execution.isPending i = true := Execution.isPending_iff.mpr (.inr ready)
    rw [Execution.weight_of_dispatched (by rw [phases, if_pos rfl]), graph]
    simp only [Execution.weight, idle, pending, if_true]
    omega

/-- Each move that the execution makes leaves it less to do, unless the signal ends its wait. -/
theorem IsSteady.effort_lt (h : s.IsSteady) (asleep : m ≠ .wake) (own : m.isOwn = true)
    (happens : s.Happens m s') : s'.effort + 1 ≤ s.effort := by
  cases happens with
  | look place =>
    -- The signal makes no difference to what is left to do for a stage.
    simp only [effort, place, Place.weight]
    exact le_refl _
  | start place can =>
    obtain ⟨-, ⟨i, rest, queue⟩, -⟩ := queue_of_canStart can
    exact h.effort_dispatch queue _ (by omega)
  | rest place cannot =>
    obtain ⟨rests, -⟩ | ⟨rests, -⟩ | ⟨rests, -⟩ := s.resting_cases <;>
      simp [effort, place, rests, Place.weight]
  | acquire place free =>
    obtain ⟨-, i, rest, queue⟩ := queue_of_canDispatch (h.queueing place).2
    exact h.effort_dispatch queue _ (by simp [Place.weight])
  | @enter i read count phase =>
    have running := h.consistent.running phase
    obtain ⟨spec, new, found, proceeds, entered⟩ := h.consistent.enter_of_dispatched phase
    rw [entered]
    exact effort_le (k := 1) (i := i) rfl (h.consistent.exists_state.mpr ⟨_, running⟩)
      (fun j ne => Execution.weight_setPhase ne) (Execution.weight_proceed found phase proceeds)
      (by omega)
  | @deliver i conduct w workspace =>
    obtain ⟨spec, inputs, -, phase, -⟩ := phase?_of_workspace? workspace
    have running := h.consistent.running phase
    refine effort_le (k := 1) (i := i) rfl (h.consistent.exists_state.mpr ⟨_, running⟩)
      (fun j ne => Execution.weight_setPhase ne) ?_ (by omega)
    have after : (s.execution.deliver i (conduct.play w)).phase? i =
        some (.ended (Execution.stored s.execution.context (conduct.play w)).1) := by
      refine (Execution.phase?_setPhase _ i i _).trans ?_
      rw [if_pos rfl]
      exact congrArg (Option.map _) phase
    rw [Execution.weight_of_working phase, Execution.weight_of_ended after]
  | @settle i now result place ended =>
    have running := h.consistent.running ended
    obtain ⟨self, others⟩ := h.consistent.weight_settle ended now
    refine effort_le (k := 3) (i := i) (h.consistent.change_graph (.settle ended now)).1
      (h.consistent.exists_state.mpr ⟨_, running⟩) others ?_ (by simp [Place.weight])
    rw [self, Execution.weight_of_ended ended]
  | wake signalled can => exact absurd rfl asleep
  | signal => cases own
  | occupy enough => cases own
  | supply => cases own

theorem Happens.effort_eq (happens : s.Happens m s') (foreign : m.isOwn = false) :
    s'.effort = s.effort := by
  cases happens <;> first | rfl | cases foreign

theorem reserve_le (s : Shift) : s.reserve ≤ 3 := by
  unfold reserve
  split <;> omega

/-- Where the signal has been looked at, or is about to be, it adds nothing. -/
theorem reserve_eq_zero (heard : s.execution.cancelled = true ∨ s.signalled = true ∧
    s.place = .looking) : s.reserve = 0 := by
  apply if_pos
  simpa using heard

theorem Happens.reserve_le (happens : s.Happens m s') (h : s.IsSteady) : s'.reserve ≤ s.reserve := by
  by_cases heard : s.execution.cancelled = true ∨ s.signalled = true ∧ s.place = .looking
  · rw [reserve_eq_zero heard]
    apply le_of_eq
    apply reserve_eq_zero
    rcases heard with cancelled | ⟨signalled, looking⟩
    · exact .inl (happens.cancelled_of_cancelled h cancelled)
    -- Where the signal is looked at next, the only move of the one that runs it is to look.
    · cases happens with
      | look _ => exact .inl (by simp [Execution.observe, signalled])
      | start place _ | rest place _ | acquire place _ | settle place _ =>
        rw [looking] at place
        cases place
      | wake _ can => exact .inr ⟨signalled, rfl⟩
      | signal => exact .inr ⟨rfl, looking⟩
      | enter _ | deliver _ | occupy _ | supply => exact .inr ⟨signalled, looking⟩
  · have full : s.reserve = 3 := if_neg (by simpa using heard)
    rw [full]
    exact s'.reserve_le

/-- To wake up is paid for by what has been put aside for the signal. -/
theorem IsSteady.effort_wake (h : s.IsSteady) (signalled : s.signalled = true)
    (can : s.canWake = true) : effort { s with place := .looking } +
      reserve { s with place := .looking } + 1 ≤ s.effort + s.reserve := by
  have active : s.execution.cancelled = false := by
    simp only [canWake, Bool.or_eq_true, Bool.and_eq_true, beq_iff_eq, Bool.not_eq_true'] at can
    rcases can with queueing | ⟨-, active⟩
    · exact (queue_of_canDispatch (h.queueing queueing).2).1
    · exact active
  have elsewhere : s.place ≠ .looking := by
    intro looking
    simp [canWake, looking] at can
  have before : s.reserve = 3 := if_neg (by simp [active, elsewhere])
  have after : reserve { s with place := .looking } = 0 := reserve_eq_zero (.inr ⟨signalled, rfl⟩)
  rw [before, after]
  simp only [effort, Place.weight]
  omega

/-- What has happened and what is left to do are together no more than there was to do. -/
theorem IsSteady.happenings_le (h : s.IsSteady) (moves : List Move) :
    s.happenings moves + ((s.run moves).effort + (s.run moves).reserve) ≤
      s.effort + s.reserve := by
  induction moves generalizing s with
  | nil =>
    rw [happenings, Nat.zero_add]
    exact le_refl _
  | cons m rest ih =>
    have run_cons : s.run (m :: rest) = (s.act m).run rest := rfl
    rw [happenings, run_cons]
    rcases s.act_cases m with ⟨none, same⟩ | happens
    · rw [same, none]
      simpa using ih h
    -- A move that happens is either paid for by the effort, or it is not the execution's.
    · have after := ih (h.step happens)
      have reserve := happens.reserve_le h
      by_cases own : m.isOwn = true
      · have less : (s.act m).effort + (s.act m).reserve + 1 ≤ s.effort + s.reserve := by
          by_cases wakes : m = .wake
          · subst wakes
            generalize s.act .wake = s' at happens
            cases happens with
            | wake signalled can => exact h.effort_wake signalled can
          · have less := h.effort_lt wakes own happens
            omega
        split <;> omega
      · have same := happens.effort_eq (by simpa using own)
        simp only [own, Bool.false_and, Bool.false_eq_true, if_false]
        omega

/-- As long as an execution is not told to stop, nothing is spent on the signal. -/
theorem IsSteady.happenings_le_of_quiet (h : s.IsSteady) (quiet : s.signalled = false)
    (active : s.execution.cancelled = false) {moves : List Move} (uncancelled : .signal ∉ moves) :
    s.happenings moves + (s.run moves).effort ≤ s.effort := by
  have after := h.run_active quiet active uncancelled
  have untouched {s : Shift} (quiet : s.signalled = false)
      (active : s.execution.cancelled = false) : s.reserve = 3 :=
    if_neg (by simp [quiet, active])
  have total := h.happenings_le moves
  rw [untouched quiet active, untouched after.1 after.2] at total
  omega

theorem effort_start (graph : Graph) (config : ExecutorConfig) (id : String)
    (seed : Dict Value) (suffixes : Suffixes) :
    (start config id graph seed suffixes).effort ≤ 8 * graph.size + graph.readCount + 2 := by
  have graph_ : (Execution.start id graph seed suffixes).graph = graph :=
    graph_start config id graph seed suffixes
  have each (i : Nat) :
      (Execution.start id graph seed suffixes).weight i ≤ 8 + graph.inputCount i := by
    have idle : (Execution.start id graph seed suffixes).phase? i = Option.none := by
      have none : (Execution.start id graph seed suffixes).inFlight = [] :=
        inFlight_start config id graph seed suffixes
      rw [Execution.phase?, none]
      rfl
    simp only [Execution.weight, idle, graph_]
    split <;> omega
  have sum : ((List.range graph.size).map (Execution.start id graph seed suffixes).weight).sum ≤
      8 * graph.size + graph.readCount := by
    calc
      _ ≤ ((List.range graph.size).map (fun i => 8 + graph.inputCount i)).sum :=
        List.sum_le_sum (fun i _ => each i)
      _ = ((List.range graph.size).map (fun _ => 8)).sum + graph.readCount := List.sum_map_add
      _ = 8 * graph.size + graph.readCount := by
        rw [List.map_const', List.sum_replicate_nat, List.length_range, Nat.mul_comm]
  simp only [start, effort, graph_, Place.weight]
  omega

/-! ### There is always a move -/

/-- An execution that is not over can make a move, unless it waits for a permit and others hold all
of them. -/
theorem IsSteady.progress (h : s.IsSteady) (more : s.place ≠ .finished) :
    (∃ m : Move, m.isOwn = true ∧ (s.step? m).isSome = true) ∨
      s.place = .queueing ∧ s.config.permits ≤ s.others := by
  cases place : s.place with
  | looking => exact .inl ⟨.look, rfl, by simp [step?, place]⟩
  | starting =>
    by_cases can : s.canStart = true
    · exact .inl ⟨.start default, rfl, by simp [step?, place, can]⟩
    · exact .inl ⟨.rest, rfl, by simp [step?, place, can]⟩
  | queueing =>
    by_cases free : 0 < s.free
    · exact .inl ⟨.acquire default, rfl, by simp [step?, place, free]⟩
    · have held : s.held = 0 := by rw [Shift.held, (h.queueing place).1]; rfl
      unfold Shift.free at free
      exact .inr ⟨rfl, by omega⟩
  | waiting =>
    obtain ⟨f, rest, flight⟩ := List.exists_cons_of_ne_nil (h.waiting place)
    have member : f ∈ s.execution.inFlight := by simp [flight]
    have phase := Execution.phase?_eq_of_mem h.consistent.flights member
    have running := (h.consistent.inFlight f.stage).mp (List.mem_map_of_mem member)
    have inside : f.stage < s.execution.graph.stages.length :=
      h.consistent.exists_state.mpr ⟨_, running⟩
    -- Whatever the first stage has come to, it can go on.
    cases here : f.phase with
    | dispatched read count =>
      rw [here] at phase
      exact .inl ⟨.enter f.stage, rfl, by simp [step?, phase]⟩
    | working inputs =>
      rw [here] at phase
      refine .inl ⟨.deliver f.stage default, rfl, ?_⟩
      simp [step?, Execution.workspace?, phase, List.getElem?_eq_getElem inside]
    | ended result =>
      rw [here] at phase
      exact .inl ⟨.settle f.stage default, rfl, by simp [step?, place, phase]⟩
  | finished => exact absurd place more

/-- An execution that is not over can get nearer to its end, if others give back their permits. -/
theorem IsSteady.exists_nearer (h : s.IsSteady) (more : s.place ≠ .finished) :
    ∃ moves, (s.run moves).effort + (s.run moves).reserve < s.effort + s.reserve := by
  have own_ {s : Shift} (h : s.IsSteady) {m : Move} (own : m.isOwn = true)
      (can : (s.step? m).isSome = true) :
      (s.act m).effort + (s.act m).reserve < s.effort + s.reserve := by
    have total := h.happenings_le [m]
    simp only [happenings, own, can, Bool.and_self, if_true] at total
    change 1 + 0 + ((s.act m).effort + (s.act m).reserve) ≤ _ at total
    omega
  rcases h.progress more with ⟨m, own, can⟩ | ⟨queueing, -⟩
  · exact ⟨[m], own_ h own can⟩
  -- Nothing runs, so that all permits are free once nobody else has any.
  · have free : s.act (.occupy 0) = { s with others := 0 } := by
      have held : s.held ≤ s.config.permits := Nat.le_trans (Nat.le_add_left _ _) h.permits
      simp [act, step?, held]
    have h' : (s.act (.occupy 0)).IsSteady := h.run [.occupy 0]
    have total := h.happenings_le [.occupy 0]
    change 0 + 0 + ((s.act (.occupy 0)).effort + (s.act (.occupy 0)).reserve) ≤ _ at total
    rcases h'.progress (by simp [free, queueing]) with ⟨m, own, can⟩ | ⟨-, none⟩
    · refine ⟨[.occupy 0, m], ?_⟩
      have less := own_ h' own can
      change ((s.act (.occupy 0)).act m).effort + ((s.act (.occupy 0)).act m).reserve < _
      omega
    · simp [free, ExecutorConfig.permits] at none

/-- An execution can come to its end from wherever it is, if others give back their permits. -/
theorem IsSteady.exists_finished (h : s.IsSteady) : ∃ moves, (s.run moves).place = .finished := by
  generalize bound : s.effort + s.reserve = n
  induction n using Nat.strong_induction_on generalizing s with
  | _ n ih =>
    by_cases more : s.place = .finished
    · exact ⟨[], more⟩
    · obtain ⟨moves, nearer⟩ := h.exists_nearer more
      obtain ⟨rest, finished⟩ := ih _ (bound ▸ nearer) (h.run moves) rfl
      refine ⟨moves ++ rest, ?_⟩
      rw [Shift.run, List.foldl_append]
      exact finished

end Shift

end Printworks
