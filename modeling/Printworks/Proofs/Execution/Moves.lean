import Printworks.Execution.Shift
import Printworks.Proofs.Execution.Consistency

/-!
# What moves do

A move that can happen changes the execution in one of a few ways, and each of them keeps the books.
The permits that the execution holds and those of others are never more than there are, and where the
one that runs the execution stands says what it has found.
-/

namespace Printworks

/-- The ways in which an execution changes. -/
inductive Execution.Change (e : Execution) : Execution → Prop
  | observe (signalled : Bool) : Change e (e.observe signalled)
  | dispatch {i : Nat} {rest : List Nat} (queue : e.ready = i :: rest)
      (active : e.cancelled = false) (now : Instant) : Change e (e.dispatch now)
  | enter {i : Nat} {read : Dict Value} {count : Nat}
      (phase : e.phase? i = some (.dispatched read count)) : Change e (e.enter i)
  | deliver {i : Nat} {w : Workspace} (workspace : e.workspace? i = some w) (conduct : Conduct) :
      Change e (e.deliver i (conduct.play w))
  | settle {i : Nat} {result : Except StageError (List String)}
      (ended : e.phase? i = some (.ended result)) (now : Instant) : Change e (e.settle i now)
  | supply (suffixes : Suffixes) : Change e (e.supply suffixes)

theorem Execution.IsConsistent.change {e e' : Execution} (h : e.IsConsistent)
    (change : e.Change e') : e'.IsConsistent := by
  cases change with
  | observe signalled => exact h.of_sameBooks (sameBooks_observe e signalled)
  | dispatch _ _ now => exact h.dispatch now
  | enter _ => exact h.of_sameBooks (sameBooks_enter e _)
  | deliver _ conduct => exact h.of_sameBooks (sameBooks_deliver e _ _)
  | settle _ now => exact h.settle _ now
  | supply suffixes => exact h.of_sameBooks (sameBooks_supply e suffixes)

theorem Execution.enter_frame (e : Execution) (i : Nat) :
    e.enter i = { e with inFlight := (e.enter i).inFlight } := by
  rcases e.enter_cases i with same | ⟨_, _, _, new, -, eq⟩
  · rw [same]
  · rw [eq]
    rfl

theorem Execution.IsConsistent.change_graph {e e' : Execution} (h : e.IsConsistent)
    (change : e.Change e') : e'.graph = e.graph ∧ e'.id = e.id := by
  cases change with
  | observe signalled => exact ⟨rfl, rfl⟩
  | dispatch queue _ now =>
    rw [dispatch_of_ready queue]
    exact ⟨rfl, rfl⟩
  | enter _ =>
    rw [enter_frame]
    exact ⟨rfl, rfl⟩
  | deliver _ conduct => exact ⟨rfl, rfl⟩
  | settle ended now =>
    obtain ⟨_, _, _, _, _, frame⟩ := h.settle_frame ended now
    rw [frame]
    exact ⟨rfl, rfl⟩
  | supply suffixes => exact ⟨rfl, rfl⟩

namespace Shift

variable {s s' : Shift} {m : Move}

/-- What a move makes of a shift in which it can happen. -/
inductive Happens (s : Shift) : Move → Shift → Prop
  | look (place : s.place = .looking) :
      Happens s .look { s with execution := s.execution.observe s.signalled, place := .starting }
  | start {now : Instant} (place : s.place = .starting) (can : s.canStart = true) :
      Happens s (.start now) { s with execution := s.execution.dispatch now }
  | rest (place : s.place = .starting) (cannot : s.canStart = false) :
      Happens s .rest { s with place := s.resting }
  | acquire {now : Instant} (place : s.place = .queueing) (free : 0 < s.free) :
      Happens s (.acquire now) { s with execution := s.execution.dispatch now, place := .looking }
  | enter {i : Nat} {read : Dict Value} {count : Nat}
      (phase : s.execution.phase? i = some (.dispatched read count)) :
      Happens s (.enter i) { s with execution := s.execution.enter i }
  | deliver {i : Nat} {conduct : Conduct} {w : Workspace}
      (workspace : s.execution.workspace? i = some w) :
      Happens s (.deliver i conduct) { s with execution := s.execution.deliver i (conduct.play w) }
  | settle {i : Nat} {now : Instant} {result : Except StageError (List String)}
      (place : s.place = .waiting) (ended : s.execution.phase? i = some (.ended result)) :
      Happens s (.settle i now) { s with execution := s.execution.settle i now, place := .looking }
  | wake (signalled : s.signalled = true) (can : s.canWake = true) :
      Happens s .wake { s with place := .looking }
  | signal : Happens s .signal { s with signalled := true }
  | occupy {others : Nat} (enough : others + s.held ≤ s.config.permits) :
      Happens s (.occupy others) { s with others := others }
  | supply {suffixes : Suffixes} :
      Happens s (.supply suffixes) { s with execution := s.execution.supply suffixes }

theorem happens_of_step? (h : s.step? m = some s') : s.Happens m s' := by
  cases m with
  | look =>
    simp only [step?, Option.ite_none_right_eq_some, Option.some.injEq] at h
    obtain ⟨place, rfl⟩ := h
    exact .look place
  | start now =>
    simp only [step?, Option.ite_none_right_eq_some, Option.some.injEq] at h
    obtain ⟨⟨place, can⟩, rfl⟩ := h
    exact .start place can
  | rest =>
    simp only [step?, Option.ite_none_right_eq_some, Option.some.injEq] at h
    obtain ⟨⟨place, cannot⟩, rfl⟩ := h
    exact .rest place (by simpa using cannot)
  | acquire now =>
    simp only [step?, Option.ite_none_right_eq_some, Option.some.injEq] at h
    obtain ⟨⟨place, free⟩, rfl⟩ := h
    exact .acquire place free
  | enter i =>
    simp only [step?] at h
    split at h
    next phase =>
      cases h
      exact .enter phase
    next => cases h
  | deliver i conduct =>
    obtain ⟨w, workspace, rfl⟩ := Option.map_eq_some_iff.mp h
    exact .deliver workspace
  | settle i now =>
    simp only [step?] at h
    split at h
    next place ended =>
      cases h
      exact .settle place ended
    next => cases h
  | wake =>
    simp only [step?, Option.ite_none_right_eq_some, Option.some.injEq] at h
    obtain ⟨⟨signalled, can⟩, rfl⟩ := h
    exact .wake signalled can
  | signal =>
    cases h
    exact .signal
  | occupy others =>
    simp only [step?, Option.ite_none_right_eq_some, Option.some.injEq] at h
    obtain ⟨enough, rfl⟩ := h
    exact .occupy enough
  | supply suffixes =>
    cases h
    exact .supply

theorem act_cases (s : Shift) (m : Move) :
    (s.step? m = none ∧ s.act m = s) ∨ s.Happens m (s.act m) := by
  cases h : s.step? m with
  | none => exact .inl ⟨rfl, by rw [act, h]; rfl⟩
  | some s' => exact .inr (by rw [act, h]; exact happens_of_step? h)

/-- What every move keeps holds after any moves. -/
theorem run_induction {P : Shift → Prop} (moves : List Move) (start : P s)
    (step : ∀ {s s' : Shift} {m : Move}, m ∈ moves → P s → s.Happens m s' → P s') :
    P (s.run moves) := by
  induction moves generalizing s with
  | nil => exact start
  | cons m rest ih =>
    -- A move that cannot happen leaves the shift as it is.
    have first : P (s.act m) := by
      rcases s.act_cases m with ⟨-, same⟩ | happens
      · rwa [same]
      · exact step List.mem_cons_self start happens
    exact ih first (fun member => step (List.mem_cons_of_mem m member))

theorem run_concat (s : Shift) (moves : List Move) (m : Move) :
    s.run (moves ++ [m]) = (s.run moves).act m := by
  rw [run, List.foldl_append]
  rfl

/-! ### The beginning -/

section

variable (config : ExecutorConfig) (id : String) (graph : Graph) (seed : Dict Value)
  (suffixes : Suffixes)

theorem graph_start : (start config id graph seed suffixes).execution.graph = graph := by
  rw [start, Execution.start_frame]

theorem id_start : (start config id graph seed suffixes).execution.id = id := by
  rw [start, Execution.start_frame]

theorem inFlight_start : (start config id graph seed suffixes).execution.inFlight = [] := by
  rw [start, Execution.start_frame]

theorem cancelled_start : (start config id graph seed suffixes).execution.cancelled = false := by
  rw [start, Execution.start_frame]

end

/-! ### Permits and places -/

/-- What holds at any time of a shift on a sound graph. -/
structure IsSteady (s : Shift) : Prop where
  consistent : s.execution.IsConsistent
  permits : s.others + s.held ≤ s.config.permits
  queueing : s.place = .queueing → s.execution.inFlight = [] ∧ s.execution.canDispatch = true
  waiting : s.place = .waiting → s.execution.inFlight ≠ []
  finished : s.place = .finished → s.execution.isOver = true

theorem isSteady_start {graph : Graph} (sound : graph.IsSound) (config : ExecutorConfig)
    (id : String) (seed : Dict Value) (suffixes : Suffixes) :
    (start config id graph seed suffixes).IsSteady := by
  refine ⟨Execution.isConsistent_start sound id seed suffixes, ?_, ?_, ?_, ?_⟩
  · rw [held, inFlight_start]
    exact Nat.zero_le _
  · intro place
    cases place
  · intro place
    cases place
  · intro place
    cases place

theorem queue_of_canDispatch {e : Execution} (can : e.canDispatch = true) :
    e.cancelled = false ∧ ∃ i rest, e.ready = i :: rest := by
  obtain ⟨active, some_⟩ : e.cancelled = false ∧ e.ready ≠ [] := by
    simpa [Execution.canDispatch] using can
  exact ⟨active, List.exists_cons_of_ne_nil some_⟩

theorem queue_of_canStart (can : s.canStart = true) :
    s.execution.cancelled = false ∧ (∃ i rest, s.execution.ready = i :: rest) ∧ 0 < s.free := by
  obtain ⟨dispatchable, free⟩ : s.execution.canDispatch = true ∧ 0 < s.free := by
    simpa [canStart] using can
  obtain ⟨active, queue⟩ := queue_of_canDispatch dispatchable
  exact ⟨active, queue, free⟩

/-- One that finds nothing to start is done, in line for a permit, or waits for a stage. -/
theorem resting_cases (s : Shift) :
    (s.resting = .finished ∧ s.execution.isOver = true) ∨
    (s.resting = .queueing ∧ s.execution.inFlight = [] ∧ s.execution.canDispatch = true) ∨
    (s.resting = .waiting ∧ s.execution.inFlight ≠ []) := by
  rw [resting]
  split
  next isOver => exact .inl ⟨rfl, isOver⟩
  next more =>
    split
    next none =>
      refine .inr (.inl ⟨rfl, List.isEmpty_iff.mp none, ?_⟩)
      simpa [Execution.isOver, none] using more
    next some_ => exact .inr (.inr ⟨rfl, by simpa using some_⟩)

theorem held_dispatch {i : Nat} {rest : List Nat} (queue : s.execution.ready = i :: rest)
    (now : Instant) (place : Place) :
    held { s with execution := s.execution.dispatch now, place := place } = s.held + 1 := by
  rw [held, Execution.dispatch_of_ready queue, List.countP_append]
  rfl

/-- A stage holds no more than it did after a change of its phase, if it did not have that phase
once it had ended. -/
theorem held_setPhase {e : Execution} (nodup : (e.inFlight.map (·.stage)).Nodup) {i : Nat}
    {phase new : Phase} (now : e.phase? i = some phase) (active : Flight.hasEnded ⟨i, phase⟩ = false) :
    (e.setPhase i new).inFlight.countP (fun f => !f.hasEnded) ≤
      e.inFlight.countP (fun f => !f.hasEnded) := by
  rw [Execution.setPhase, List.countP_map]
  refine List.countP_mono_left (fun f member => ?_)
  simp only [Function.comp_apply]
  split
  next same =>
    have this := Execution.phase?_eq_of_mem nodup member
    rw [same, now] at this
    cases this
    -- The flight had not ended before, so it was counted then whatever its phase is now.
    intro _
    simpa [Flight.hasEnded] using active
  next => exact id

theorem IsSteady.of_sameBooks (h : s.IsSteady) {e : Execution} {i : Nat} {phase : Phase}
    (running : s.execution.phase? i = some phase) (same : s.execution.SameBooks e)
    (less : e.inFlight.countP (fun f => !f.hasEnded) ≤ s.held) :
    IsSteady { s with execution := e } := by
  -- Something runs: nobody waits in line for a permit, and the execution is not over.
  have some_ : s.execution.inFlight ≠ [] := by
    intro none
    simp [Execution.phase?, none] at running
  refine ⟨h.consistent.of_sameBooks same, ?_, ?_, ?_, ?_⟩
  · have before := h.permits
    exact le_trans (Nat.add_le_add_left less _) before
  · intro place
    exact absurd (h.queueing place).1 some_
  · intro _ none
    have lengths := congrArg List.length same.inFlight
    have nobody : e.inFlight = [] := none
    rw [List.length_map, List.length_map, nobody] at lengths
    exact some_ (List.length_eq_zero_iff.mp lengths.symm)
  · intro place
    have none_ := h.finished place
    simp only [Execution.isOver, Bool.and_eq_true, List.isEmpty_iff] at none_
    exact absurd none_.1 some_

theorem held_enter (h : s.IsSteady) {i : Nat} {read : Dict Value} {count : Nat}
    (phase : s.execution.phase? i = some (.dispatched read count)) :
    (s.execution.enter i).inFlight.countP (fun f => !f.hasEnded) ≤ s.held := by
  rcases s.execution.enter_cases i with same | ⟨_, _, _, new, -, eq⟩
  · rw [same]
    exact le_refl _
  · rw [eq]
    exact held_setPhase h.consistent.flights phase rfl

theorem phase?_of_workspace? {e : Execution} {i : Nat} {w : Workspace}
    (workspace : e.workspace? i = some w) : ∃ spec inputs, e.graph.stages[i]? = some spec ∧
      e.phase? i = some (.working inputs) ∧ w = Workspace.start e.id spec inputs := by
  unfold Execution.workspace? at workspace
  split at workspace
  next spec inputs found phase => exact ⟨spec, inputs, found, phase, (Option.some.inj workspace).symm⟩
  next => cases workspace

theorem IsSteady.step (h : s.IsSteady) (happens : s.Happens m s') : s'.IsSteady := by
  cases happens with
  | look place =>
    refine ⟨h.consistent.change (.observe _), h.permits, ?_, ?_, ?_⟩ <;> intro place <;> cases place
  | start place can =>
    rename_i now
    obtain ⟨active, ⟨i, rest, queue⟩, free⟩ := queue_of_canStart can
    refine ⟨h.consistent.change (.dispatch queue active now), ?_, ?_, ?_, ?_⟩
    -- A permit is free, so one more may be held.
    · rw [held_dispatch queue now s.place]
      unfold Shift.free at free
      change s.others + (s.held + 1) ≤ s.config.permits
      omega
    all_goals
      intro place'
      cases place.symm.trans place'
  | rest place cannot =>
    obtain ⟨rests, isOver⟩ | ⟨rests, none, can⟩ | ⟨rests, some_⟩ := s.resting_cases
    · exact ⟨h.consistent, h.permits, fun eq => (nomatch rests.symm.trans eq),
        fun eq => (nomatch rests.symm.trans eq), fun _ => isOver⟩
    · exact ⟨h.consistent, h.permits, fun _ => ⟨none, can⟩,
        fun eq => (nomatch rests.symm.trans eq), fun eq => (nomatch rests.symm.trans eq)⟩
    · exact ⟨h.consistent, h.permits, fun eq => (nomatch rests.symm.trans eq), fun _ => some_,
        fun eq => (nomatch rests.symm.trans eq)⟩
  | acquire place free =>
    rename_i now
    obtain ⟨active, i, rest, queue⟩ := queue_of_canDispatch (h.queueing place).2
    refine ⟨h.consistent.change (.dispatch queue active now), ?_, ?_, ?_, ?_⟩
    · rw [held_dispatch queue now .looking]
      unfold Shift.free at free
      change s.others + (s.held + 1) ≤ s.config.permits
      omega
    all_goals
      intro place
      cases place
  | enter phase =>
    exact h.of_sameBooks phase (Execution.sameBooks_enter _ _) (held_enter h phase)
  | deliver workspace =>
    rename_i i conduct w
    obtain ⟨spec, inputs, -, phase, -⟩ := phase?_of_workspace? workspace
    exact h.of_sameBooks phase (Execution.sameBooks_deliver _ _ _)
      (held_setPhase h.consistent.flights phase rfl)
  | settle place ended =>
    rename_i i now result
    refine ⟨h.consistent.change (.settle ended now), ?_, ?_, ?_, ?_⟩
    -- The permit came back when the stage ended; now only its flight goes.
    · have fewer : (s.execution.settle i now).inFlight.countP (fun f => !f.hasEnded) ≤ s.held := by
        rw [h.consistent.inFlight_settle ended now]
        exact List.Sublist.countP_le List.filter_sublist
      exact le_trans (Nat.add_le_add_left fewer _) h.permits
    all_goals
      intro place
      cases place
  | wake signalled can =>
    refine ⟨h.consistent, h.permits, ?_, ?_, ?_⟩ <;> intro place <;> cases place
  | signal => exact ⟨h.consistent, h.permits, h.queueing, h.waiting, h.finished⟩
  | occupy enough => exact ⟨h.consistent, enough, h.queueing, h.waiting, h.finished⟩
  | supply =>
    exact ⟨h.consistent.change (.supply _), h.permits, h.queueing, h.waiting, h.finished⟩

theorem Happens.config (happens : s.Happens m s') : s'.config = s.config := by
  cases happens <;> rfl

theorem Happens.change (happens : s.Happens m s') (h : s.IsSteady) :
    s'.execution = s.execution ∨ s.execution.Change s'.execution := by
  cases happens with
  | look place => exact .inr (.observe _)
  | start place can =>
    obtain ⟨active, ⟨i, rest, queue⟩, -⟩ := queue_of_canStart can
    exact .inr (.dispatch queue active _)
  | rest place cannot => exact .inl rfl
  | acquire place free =>
    obtain ⟨active, i, rest, queue⟩ := queue_of_canDispatch (h.queueing place).2
    exact .inr (.dispatch queue active _)
  | enter phase => exact .inr (.enter phase)
  | deliver workspace => exact .inr (.deliver workspace _)
  | settle place ended => exact .inr (.settle ended _)
  | wake signalled can => exact .inl rfl
  | signal => exact .inl rfl
  | occupy enough => exact .inl rfl
  | supply => exact .inr (.supply _)

theorem Happens.signalled (happens : s.Happens m s') (quiet : m ≠ .signal) :
    s'.signalled = s.signalled := by
  cases happens <;> first | rfl | exact absurd rfl quiet

/-- Only a look at the signal tells an execution that it has been cancelled. -/
theorem Happens.cancelled (happens : s.Happens m s') (h : s.IsSteady)
    (quiet : m = .look → s.signalled = false) :
    s'.execution.cancelled = s.execution.cancelled := by
  cases happens with
  | look place => simp only [Execution.observe, quiet rfl, Bool.or_false]
  | start place can =>
    obtain ⟨-, ⟨i, rest, queue⟩, -⟩ := queue_of_canStart can
    rw [Execution.dispatch_of_ready queue]
  | rest place cannot => rfl
  | acquire place free =>
    obtain ⟨-, i, rest, queue⟩ := queue_of_canDispatch (h.queueing place).2
    rw [Execution.dispatch_of_ready queue]
  | enter phase => rw [Execution.enter_frame]
  | deliver workspace => rfl
  | @settle i now result place ended =>
    obtain ⟨_, _, _, _, _, frame⟩ := h.consistent.settle_frame ended now
    rw [frame]
  | wake signalled can => rfl
  | signal => rfl
  | occupy enough => rfl
  | supply => rfl

/-- An execution that has noticed that it is cancelled does not forget it. -/
theorem Happens.cancelled_of_cancelled (happens : s.Happens m s') (h : s.IsSteady)
    (cancelled : s.execution.cancelled = true) : s'.execution.cancelled = true := by
  by_cases looks : m = .look
  · subst looks
    cases happens
    simp [Execution.observe, cancelled]
  · rw [happens.cancelled h (fun eq => absurd eq looks), cancelled]

theorem IsSteady.run (h : s.IsSteady) (moves : List Move) : (s.run moves).IsSteady :=
  run_induction moves h (fun _ h happens => h.step happens)

/-- What each change of an execution keeps holds after any moves. -/
theorem IsSteady.run_execution (h : s.IsSteady) {P : Execution → Prop} (start : P s.execution)
    (step : ∀ {e e' : Execution}, e.IsConsistent → P e → e.Change e' → P e') (moves : List Move) :
    P (s.run moves).execution := by
  have both : (s.run moves).IsSteady ∧ P (s.run moves).execution := by
    -- Steadiness is carried along, since it says that what is started was ready.
    refine run_induction (P := fun s => s.IsSteady ∧ P s.execution) moves ⟨h, start⟩ ?_
    rintro s s' m - ⟨steady, holds⟩ happens
    refine ⟨steady.step happens, ?_⟩
    rcases happens.change steady with same | change
    · rwa [same]
    · exact step steady.consistent holds change
  exact both.2

theorem IsSteady.run_graph (h : s.IsSteady) (moves : List Move) :
    (s.run moves).execution.graph = s.execution.graph ∧
      (s.run moves).execution.id = s.execution.id :=
  h.run_execution (P := fun e => e.graph = s.execution.graph ∧ e.id = s.execution.id) ⟨rfl, rfl⟩
    (fun h same change => ⟨(h.change_graph change).1.trans same.1,
      (h.change_graph change).2.trans same.2⟩) moves

/-- The graph of an execution stays what it was at first. -/
theorem graph_run {graph : Graph} (sound : graph.IsSound) (config : ExecutorConfig) (id : String)
    (seed : Dict Value) (suffixes : Suffixes) (moves : List Move) :
    ((start config id graph seed suffixes).run moves).execution.graph = graph := by
  rw [((isSteady_start sound config id seed suffixes).run_graph moves).1, graph_start]

theorem IsSteady.run_active (h : s.IsSteady) (quiet : s.signalled = false)
    (active : s.execution.cancelled = false) {moves : List Move} (uncancelled : .signal ∉ moves) :
    (s.run moves).signalled = false ∧ (s.run moves).execution.cancelled = false := by
  have all : (s.run moves).IsSteady ∧ (s.run moves).signalled = false ∧
      (s.run moves).execution.cancelled = false := by
    refine run_induction (P := fun s => s.IsSteady ∧ s.signalled = false ∧
      s.execution.cancelled = false) moves ⟨h, quiet, active⟩ ?_
    rintro s s' m member ⟨steady, quiet, active⟩ happens
    exact ⟨steady.step happens,
      (happens.signalled (fun eq => uncancelled (eq ▸ member))).trans quiet,
      (happens.cancelled steady (fun _ => quiet)).trans active⟩
  exact all.2

theorem run_config (s : Shift) (moves : List Move) : (s.run moves).config = s.config :=
  run_induction (P := fun t => t.config = s.config) moves rfl
    (fun _ same happens => happens.config.trans same)

end Shift

end Printworks
