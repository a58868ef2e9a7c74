import Printworks.Proofs.Execution.Account
import Printworks.Proofs.Execution.Faithful
import Printworks.Proofs.Graph.Naming

/-!
# Where inputs come from

Every value of an execution is one of the seed or has been stored by a stage under the name of one
of its outputs. So what a stage reads under a name that has a producer is what the producer has
stored, before the stage has been started, and what it reads under the name of an attribute is the
seed's. A name that is neither may still be that of an internal output, and then the stage reads
whatever there is when it comes to read.
-/

namespace Printworks

/-- Whether an input is for more than diagnosis and reads a name that something provides. -/
def Graph.Secures (g : Graph) (spec : StageSpec) (slot : Slot) : Prop :=
  slot ∈ spec.orderingInputs ∧ g.provides (spec.inputName slot.name) = true

namespace Execution

variable {seed : Dict Value} {log : Nat → String → Value → Prop} {e e' : Execution} {i : Nat}

/-- Whether the values of an execution are those of the seed and those that have been stored, each
under the name of an output of its stage, and whether what running stages have read is still what
there is under the names that something provides. -/
structure IsTraced (seed : Dict Value) (log : Nat → String → Value → Prop) (e : Execution) :
    Prop where
  values : ∀ name value, e.context.values.get? name = some value ↔
    seed.get? name = some value ∨ ∃ i, log i name value
  own : ∀ i name value, log i name value → e.HasDelivered i ∧
    ∃ spec, e.graph.stages[i]? = some spec ∧
      ∃ slot ∈ spec.outputs.names, spec.outputName slot = name
  reads : e.IsInformed e.graph.Secures

namespace IsTraced

theorem congr {log' : Nat → String → Value → Prop} (h : e.IsTraced seed log)
    (same : ∀ i name value, log' i name value ↔ log i name value) : e.IsTraced seed log' := by
  have eq : log' = log := by
    funext i name value
    exact propext (same i name value)
  rwa [eq]

/-! Where a value is from. -/

section

variable {name : String} {value : Value}

/-- What has a value from a stage is no attribute, and it has the stage for its producer unless it
is an internal output and has none. -/
theorem writer_cases (h : e.IsTraced seed log) (named : e.graph.IsNamed)
    (stored : log i name value) : e.graph.attributes.contains name = false ∧
      (e.graph.producer? name = some i ∨ e.graph.producer? name = none ∧
        ∃ spec, e.graph.stages[i]? = some spec ∧ ∃ output ∈ spec.outputs.slots,
          output.isInternal = true ∧ spec.outputName output.name = name) := by
  obtain ⟨-, spec, place, slot, member, rfl⟩ := h.own i name value stored
  refine ⟨named.notAttribute i spec place slot member, ?_⟩
  rcases named.owner i spec place slot member with owner | ⟨nobody, output, there, rfl, internal⟩
  · exact .inl owner
  · exact .inr ⟨nobody, spec, place, output, there, internal, rfl⟩

theorem get?_of_producer (h : e.IsTraced seed log) (named : e.graph.IsNamed)
    (seeded : ∀ name, seed.contains name = true → e.graph.attributes.contains name = true) {p : Nat}
    (produces : e.graph.producer? name = some p)
    (other : e.graph.attributes.contains name = false) :
    e.context.values.get? name = some value ↔ log p name value := by
  rw [h.values]
  constructor
  · rintro (given | ⟨i, stored⟩)
    · rw [seeded name (by rw [Dict.contains, given]; rfl)] at other
      cases other
    · rcases (h.writer_cases named stored).2 with owner | ⟨nobody, -⟩
      · rw [produces] at owner
        cases owner
        exact stored
      · rw [produces] at nobody
        cases nobody
  · exact fun stored => .inr ⟨p, stored⟩

theorem get?_of_attribute (h : e.IsTraced seed log) (named : e.graph.IsNamed)
    (known : e.graph.attributes.contains name = true) :
    e.context.values.get? name = seed.get? name := by
  apply Option.ext
  intro value
  rw [h.values]
  refine or_iff_left ?_
  rintro ⟨i, stored⟩
  rw [(h.writer_cases named stored).1] at known
  cases known

theorem exists_of_unprovided (h : e.IsTraced seed log) (named : e.graph.IsNamed)
    (seeded : ∀ name, seed.contains name = true → e.graph.attributes.contains name = true)
    (nobody : e.graph.producer? name = none)
    (unknown : e.graph.attributes.contains name = false)
    (found : e.context.values.get? name = some value) : ∃ i spec, log i name value ∧
      e.graph.stages[i]? = some spec ∧ ∃ output ∈ spec.outputs.slots,
        output.isInternal = true ∧ spec.outputName output.name = name := by
  rcases (h.values name value).mp found with given | ⟨i, stored⟩
  · rw [seeded name (by rw [Dict.contains, given]; rfl)] at unknown
    cases unknown
  · rcases (h.writer_cases named stored).2 with owner | ⟨-, spec, place, internal⟩
    · rw [nobody] at owner
      cases owner
    · exact ⟨i, spec, stored, place, internal⟩

end

/-! What changes them. -/

/-- A change that keeps the values. -/
theorem of_values (h : e.IsTraced seed log) (graph : e'.graph = e.graph)
    (values : e'.context.values = e.context.values)
    (delivered : ∀ i, e.HasDelivered i → e'.HasDelivered i)
    (reads : e'.IsInformed e.graph.Secures) : e'.IsTraced seed log := by
  refine ⟨?_, ?_, ?_⟩
  · rw [values]
    exact h.values
  · intro i name value stored
    obtain ⟨ended, writer⟩ := h.own i name value stored
    rw [graph]
    exact ⟨delivered i ended, writer⟩
  · rw [graph]
    exact reads

/-- A stage that has not ended may come to any phase that the values bear out. -/
theorem setPhase (h : e.IsTraced seed log) {spec : StageSpec} {phase new : Phase}
    (place : e.graph.stages[i]? = some spec) (now : e.phase? i = some phase)
    (busy : ¬ e.HasDelivered i)
    (informs : spec.Informs (e.graph.Secures spec) e.context.values new) :
    (e.setPhase i new).IsTraced seed log :=
  h.of_values rfl rfl (fun _ before => before.setPhase busy _) (h.reads.setPhase place now informs)

theorem enter (h : e.IsTraced seed log) (books : e.IsConsistent) {read : Dict Value} {count : Nat}
    (phase : e.phase? i = some (.dispatched read count)) : (e.enter i).IsTraced seed log := by
  obtain ⟨spec, new, place, proceeds, eq⟩ := books.enter_of_dispatched phase
  have busy := books.not_hasDelivered phase (by simp)
  have reads : spec.HasRead (e.graph.Secures spec) e.context.values read count :=
    h.reads i spec _ place phase
  rw [eq]
  exact h.setPhase place phase busy (reads.proceed proceeds)

theorem dispatch (h : e.IsTraced seed log) (books : e.IsConsistent) {rest : List Nat}
    (queue : e.ready = i :: rest) (now : Instant) : (e.dispatch now).IsTraced seed log := by
  have frame := dispatch_of_ready queue now
  exact h.of_values (by rw [frame]) (by rw [frame])
    (fun j before => before.dispatch books queue now)
    (h.reads.dispatch queue (books.not_mem_inFlight queue) now)

theorem settle (h : e.IsTraced seed log) (books : e.IsConsistent)
    {result : Except StageError (List String)} (ended : e.phase? i = some (.ended result))
    (now : Instant) : (e.settle i now).IsTraced seed log := by
  obtain ⟨_, _, _, _, _, frame⟩ := books.settle_frame ended now
  have phases := phase?_filter (books.inFlight_settle ended now)
  refine h.of_values (by rw [frame]) (by rw [frame])
    (fun j before => before.settle books ended now) ?_
  exact h.reads.of_phases (by rw [frame]) (by rw [frame])
    (fun j phase there => .inl (phase?_of_filter phases there))

/-! A stage ends. -/

/-- The names of the outputs of a stage that has not ended have no values. -/
theorem free (h : e.IsTraced seed log) (named : e.graph.IsNamed)
    (seeded : ∀ name, seed.contains name = true → e.graph.attributes.contains name = true)
    (busy : ¬ e.HasDelivered i) {spec : StageSpec} (place : e.graph.stages[i]? = some spec)
    {slot : String} (member : slot ∈ spec.outputs.names) :
    e.context.values.get? (spec.outputName slot) = none := by
  cases found : e.context.values.get? (spec.outputName slot) with
  | none => rfl
  | some value =>
    rcases (h.values _ value).mp found with given | ⟨j, stored⟩
    · have known := seeded _ (by rw [Dict.contains, given]; rfl)
      rw [named.notAttribute i spec place slot member] at known
      cases known
    -- Who has stored it has an output of that name, and so is the stage itself.
    · obtain ⟨ended, other, place', slot', member', same⟩ := h.own j _ value stored
      obtain ⟨rfl, -⟩ := named.injective j i other spec place' place slot' member' slot member same
      exact absurd ended busy

/-- What a running stage reads under a name that something provides is none of the names of another
running one. -/
theorem apart (books : e.IsConsistent) (named : e.graph.IsNamed) {j : Nat} {spec other : StageSpec}
    (place : e.graph.stages[i]? = some spec) (running : e.state? i = some .running)
    (place' : e.graph.stages[j]? = some other) (running' : e.state? j = some .running)
    {slot : Slot} (secure : e.graph.Secures other slot) {output : String}
    (member : output ∈ spec.outputs.names) :
    spec.outputName output ≠ other.inputName slot.name := by
  intro same
  obtain ⟨reads, provided⟩ := secure
  have owner := named.owner i spec place output member
  rw [same] at owner
  rcases owner with owner | ⟨nobody, -⟩
  -- It would wait for the other one, which is not done.
  · have edge := named.reads j other place' slot reads i owner
    have done := books.cleared j _ running' (.inr (.inl rfl)) i edge
    rw [running] at done
    cases done
  · rw [Graph.provides, nobody, Option.isSome_none, Bool.false_or, ← same,
      named.notAttribute i spec place output member] at provided
    cases provided

/-- New names add what has been stored under them to the values. -/
theorem values_of_new (h : e.IsTraced seed log) {names : List String} {after : Context}
    (unused : ∀ name ∈ names, e.context.values.get? name = none)
    (others : ∀ name ∉ names, after.values.get? name = e.context.values.get? name)
    (name : String) (value : Value) : after.values.get? name = some value ↔
      seed.get? name = some value ∨
        ∃ j, log j name value ∨ j = i ∧ name ∈ names ∧ after.values.get? name = some value := by
  have old := h.values name value
  by_cases new : name ∈ names
  -- What was known before says nothing about a new name.
  · rw [unused name new] at old
    constructor
    · exact fun found => .inr ⟨i, .inr ⟨rfl, new, found⟩⟩
    · rintro (given | ⟨j, stored | ⟨-, -, found⟩⟩)
      · cases old.mpr (.inl given)
      · cases old.mpr (.inr ⟨j, stored⟩)
      · exact found
  · rw [others name new, old]
    simp only [new, false_and, and_false, or_false]

/-- A stage that stores its outputs adds values under its own names, and those are all new. -/
theorem stores (h : e.IsTraced seed log) (books : e.IsConsistent) (named : e.graph.IsNamed)
    (seeded : ∀ name, seed.contains name = true → e.graph.attributes.contains name = true)
    {spec : StageSpec} {inputs : Dict Value} (place : e.graph.stages[i]? = some spec)
    (phase : e.phase? i = some (.working inputs)) {names : List String} {after : Context}
    (own : ∀ name ∈ names, ∃ slot ∈ spec.outputs.names, spec.outputName slot = name)
    (others : ∀ name ∉ names, after.values.get? name = e.context.values.get? name) :
    ({ e with context := after }.setPhase i (.ended (.ok names))).IsTraced seed
      (fun j name value => log j name value ∨
        j = i ∧ name ∈ names ∧ after.values.get? name = some value) := by
  have running := books.running phase
  have busy := books.not_hasDelivered phase (by simp)
  have unused : ∀ name ∈ names, e.context.values.get? name = none := by
    intro name member
    obtain ⟨slot, there, rfl⟩ := own name member
    exact h.free named seeded busy place there
  have grows : e.context.values.Within after.values := by
    intro name value found
    have new : name ∉ names := fun member => by
      rw [unused name member] at found
      cases found
    exact (others name new).trans found
  have phases := phase?_setPhase_of (e := { e with context := after }) phase (.ended (.ok names))
  refine ⟨h.values_of_new unused others, ?_, ?_⟩
  · rintro j name value (stored | ⟨rfl, new, -⟩)
    · obtain ⟨ended, writer⟩ := h.own j name value stored
      exact ⟨ended.setPhase busy _, writer⟩
    · exact ⟨.inl ⟨_, by rw [phases, if_pos rfl]⟩, spec, place, own name new⟩
  · refine h.reads.store phase (fun j spec' phase' place' there slot _ => ⟨grows _, ?_⟩) _
    intro secure
    refine others _ (fun new => ?_)
    obtain ⟨output, member, eq⟩ := own _ new
    exact apart books named place running place' (books.running there) secure member eq

end IsTraced

/-- The outputs of a stage are kept under their names, if those are unused. -/
theorem stored_of_completed {c : Context} {w : Workspace} {outputs : Dict Value}
    (declared : w.IsDeclared)
    (injective : ∀ slot ∈ w.spec.outputs.names, ∀ slot' ∈ w.spec.outputs.names,
      w.spec.outputName slot = w.spec.outputName slot' → slot = slot')
    (free : ∀ slot ∈ w.spec.outputs.names, c.values.get? (w.spec.outputName slot) = none)
    (complete : Workspace.completed w.spec.outputs.slots w.outputs = .ok outputs) :
    stored c (.ok w) = (.ok (outputs.keys.map w.spec.outputName),
      { c with values := w.spec.keep outputs c.values }) := by
  have slots := Workspace.completed_declared declared complete
  have separate : w.spec.Separates outputs := fun e inside e' inside' =>
    injective e.1 (slots e inside) e'.1 (slots e' inside')
  have unused : ∀ x ∈ outputs.toList.map (fun e => Workspace.write w.spec e.1 e.2),
      c.values.get? x.name = none := by
    intro x member
    obtain ⟨e, inside, rfl⟩ := List.mem_map.mp member
    exact free e.1 (slots e inside)
  have delivered : w.delivery =
      .ok (outputs.toList.map (fun e => Workspace.write w.spec e.1 e.2)) := by
    rw [Workspace.delivery, complete]
  -- No name is taken, so that nothing fails and nothing gives way.
  have open_ : c.conflict? (outputs.toList.map (fun e => Workspace.write w.spec e.1 e.2)) = none :=
    Context.conflict?_eq_none.mpr (fun x member _ => unused x member)
  have all := Context.storeAll_of_free (fun x member _ => unused x member)
    (Workspace.delivery_nodup separate)
  simp only [stored, delivered, Context.commit, open_, all, StageSpec.keep, List.foldl_map,
    List.map_map]
  simp only [Dict.keys, List.map_map]
  rfl

/-- Values are stored under the names of the outputs that they belong to, if those are unused. -/
theorem stored_names {c after : Context} {w : Workspace} (declared : w.IsDeclared)
    (injective : ∀ slot ∈ w.spec.outputs.names, ∀ slot' ∈ w.spec.outputs.names,
      w.spec.outputName slot = w.spec.outputName slot' → slot = slot')
    (free : ∀ slot ∈ w.spec.outputs.names, c.values.get? (w.spec.outputName slot) = none)
    {names : List String} (h : stored c (.ok w) = (.ok names, after)) :
    (∀ name ∈ names, ∃ slot ∈ w.spec.outputs.names, w.spec.outputName slot = name) ∧
      ∀ name ∉ names, after.values.get? name = c.values.get? name := by
  obtain ⟨w', writes, same, delivered, -⟩ := stored_eq_ok h
  cases same
  cases complete : Workspace.completed w.spec.outputs.slots w.outputs with
  | error error =>
    rw [Workspace.delivery, complete] at delivered
    cases delivered
  | ok outputs =>
    rw [stored_of_completed declared injective free complete] at h
    cases h
    constructor
    · intro name member
      obtain ⟨slot, inside, rfl⟩ := List.mem_map.mp member
      obtain ⟨e, there, rfl⟩ := List.mem_map.mp inside
      exact ⟨e.1, Workspace.completed_declared declared complete e there, rfl⟩
    · intro name other
      have slots := Workspace.completed_declared declared complete
      exact StageSpec.get?_keep_of_not_mem (fun e inside e' inside' =>
        injective e.1 (slots e inside) e'.1 (slots e' inside')) other

/-- A stage that fails leaves the context as it is, also if it does so when its outputs are stored. -/
theorem stored_error {c after : Context} {result : Except StageError Workspace} {error : StageError}
    (h : stored c result = (.error error, after)) : after = c := by
  unfold stored at h
  split at h
  next =>
    cases h
    rfl
  next =>
    split at h
    next =>
      cases h
      rfl
    next =>
      split at h
      next refused =>
        cases h
        exact (Context.commit_refused refused).1
      next => cases h

theorem IsTraced.deliver (h : e.IsTraced seed log) (books : e.IsConsistent)
    (named : e.graph.IsNamed)
    (seeded : ∀ name, seed.contains name = true → e.graph.attributes.contains name = true)
    {w : Workspace} (workspace : e.workspace? i = some w) (conduct : Conduct) :
    (e.deliver i (conduct.play w)).IsTraced seed (fun j name value => log j name value ∨
      j = i ∧ ∃ names after, stored e.context (conduct.play w) = (.ok names, after) ∧
        name ∈ names ∧ after.values.get? name = some value) := by
  obtain ⟨spec, inputs, place, phase, rfl⟩ := Shift.phase?_of_workspace? workspace
  have busy := books.not_hasDelivered phase (by simp)
  rw [Execution.deliver]
  cases result : stored e.context (conduct.play (Workspace.start e.id spec inputs)) with
  | mk outcome after =>
    cases outcome with
    | error error =>
      cases stored_error result
      have nothing : (e.setPhase i (.ended (.error error))).IsTraced seed log :=
        h.setPhase place phase busy trivial
      simpa using nothing
    | ok names =>
      obtain ⟨w, _, played, -, -⟩ := stored_eq_ok result
      obtain ⟨same, declared⟩ :=
        Conduct.play_spec (Workspace.isDeclared_start e.id spec inputs) played
      have same : w.spec = spec := same
      rw [played] at result
      obtain ⟨own, others⟩ := stored_names declared
        (by
          rw [same]
          exact fun slot member slot' member' eq =>
            (named.injective i i spec spec place place slot member slot' member' eq).2)
        (by
          rw [same]
          exact fun slot member => h.free named seeded busy place member)
        result
      rw [same] at own
      have stores := h.stores books named seeded place phase own others
      simpa using stores

end Execution

namespace Shift

variable {first s : Shift} {seed : Dict Value} {i : Nat} {name : String} {value : Value}

/-- Whether a move ends a stage and stores a value of it under a name. -/
def Stores (s : Shift) (m : Move) (i : Nat) (name : String) (value : Value) : Prop :=
  ∃ conduct w names after, m = .deliver i conduct ∧ s.execution.workspace? i = some w ∧
    Execution.stored s.execution.context (conduct.play w) = (.ok names, after) ∧
    name ∈ names ∧ after.values.get? name = some value

/-- Whether one of some moves has stored a value of a stage under a name. -/
def HasStored (first : Shift) (moves : List Move) (i : Nat) (name : String) (value : Value) :
    Prop :=
  ∃ earlier m later, moves = earlier ++ m :: later ∧ (first.run earlier).Stores m i name value

theorem hasStored_concat {moves : List Move} {m : Move} :
    first.HasStored (moves ++ [m]) i name value ↔
      first.HasStored moves i name value ∨ (first.run moves).Stores m i name value :=
  exists_split_concat

/-- Each move adds what it stores to the values, and nothing else. -/
theorem isTraced_act {log : Nat → String → Value → Prop} (steady : s.IsSteady)
    (named : s.execution.graph.IsNamed) (seeded : ∀ name, seed.contains name = true →
      s.execution.graph.attributes.contains name = true)
    (h : s.execution.IsTraced seed log) (m : Move) :
    (s.act m).execution.IsTraced seed (fun j name value => log j name value ∨
      s.Stores m j name value) := by
  -- Only the end of a stage stores anything, so that there is nothing new in most of the cases.
  have quiet {e : Execution} (next : e.IsTraced seed log)
      (other : ∀ i conduct, m ≠ .deliver i conduct) :
      e.IsTraced seed (fun j name value => log j name value ∨ s.Stores m j name value) := by
    refine next.congr (fun j name value => or_iff_left ?_)
    rintro ⟨conduct, _, _, _, eq, -⟩
    exact other j conduct eq
  rcases s.act_cases m with ⟨cannot, same⟩ | happens
  · rw [same]
    refine h.congr (fun j name value => or_iff_left ?_)
    rintro ⟨conduct, w, _, _, rfl, workspace, -⟩
    rw [step?, workspace] at cannot
    cases cannot
  · generalize s.act m = s' at happens
    cases happens with
    | look _ => exact quiet (h.of_values rfl rfl (fun _ before => before) h.reads) (by simp)
    | start _ can =>
      obtain ⟨-, ⟨i, rest, queue⟩, -⟩ := queue_of_canStart can
      exact quiet (h.dispatch steady.consistent queue _) (by simp)
    | rest _ _ => exact quiet h (by simp)
    | acquire place _ =>
      obtain ⟨-, i, rest, queue⟩ := queue_of_canDispatch (steady.queueing place).2
      exact quiet (h.dispatch steady.consistent queue _) (by simp)
    | enter phase => exact quiet (h.enter steady.consistent phase) (by simp)
    | @deliver i conduct w workspace =>
      refine (h.deliver steady.consistent named seeded workspace conduct).congr ?_
      refine fun j name value => or_congr_right ⟨?_, ?_⟩
      · rintro ⟨conduct', w', names, after, eq, workspace', stored⟩
        cases eq
        cases workspace.symm.trans workspace'
        exact ⟨rfl, names, after, stored⟩
      · rintro ⟨rfl, names, after, stored⟩
        exact ⟨conduct, w, names, after, rfl, workspace, stored⟩
    | settle _ ended => exact quiet (h.settle steady.consistent ended _) (by simp)
    | wake _ _ => exact quiet h (by simp)
    | signal => exact quiet h (by simp)
    | occupy _ => exact quiet h (by simp)
    | supply => exact quiet (h.of_values rfl rfl (fun _ before => before) h.reads) (by simp)

theorem isTraced_start (config : ExecutorConfig) (id : String) (graph : Graph) (seed : Dict Value)
    (suffixes : Suffixes) : (start config id graph seed suffixes).execution.IsTraced seed
      ((start config id graph seed suffixes).HasStored []) := by
  have none (i : Nat) (name : String) (value : Value) :
      ¬ (start config id graph seed suffixes).HasStored [] i name value := by
    rintro ⟨earlier, m, later, eq, -⟩
    simp at eq
  have values : (start config id graph seed suffixes).execution.context.values = seed := by
    rw [start, Execution.start_frame]
  refine ⟨fun name value => ?_, fun i name value stored => (none i name value stored).elim, ?_⟩
  · rw [values]
    exact ⟨.inl, fun found => found.resolve_right (not_exists.mpr (none · name value))⟩
  · intro i spec inputs _ phase
    rw [Execution.phase?, inFlight_start] at phase
    cases phase

theorem isTraced_run {graph : Graph} (sound : graph.IsSound) (named : graph.IsNamed)
    (seeded : ∀ name, seed.contains name = true → graph.attributes.contains name = true)
    (config : ExecutorConfig) (id : String) (suffixes : Suffixes) (moves : List Move) :
    ((start config id graph seed suffixes).run moves).execution.IsTraced seed
      ((start config id graph seed suffixes).HasStored moves) := by
  have steady := isSteady_start sound config id seed suffixes
  induction moves using List.reverseRecOn with
  | nil => exact isTraced_start config id graph seed suffixes
  | append_singleton moves m ih =>
    have sameGraph := graph_run sound config id seed suffixes moves
    have next := isTraced_act (steady.run moves) (by rwa [sameGraph]) (by rwa [sameGraph]) ih m
    rw [run_concat]
    exact next.congr (fun j name value => hasStored_concat)

/-- What a running stage has read is what there is, under the names that something provides. -/
theorem informs_run {stages : List StageSpec} {attributes : Contract} {given : Suffixes}
    {graph : Graph} (accepted : graph.Accepts stages attributes given)
    (seeded : ∀ name, seed.contains name = true → attributes.contains name = true)
    (config : ExecutorConfig) (id : String) (suffixes : Suffixes) (moves : List Move)
    {spec : StageSpec} (place : graph.stages[i]? = some spec) {phase : Phase}
    (now : ((start config id graph seed suffixes).run moves).execution.phase? i = some phase) :
    spec.Informs (graph.Secures spec)
      ((start config id graph seed suffixes).run moves).execution.context.values phase := by
  have traced := isTraced_run accepted.isSound accepted.isNamed
    (by rwa [accepted.checked.sameAttributes]) config id suffixes moves
  have sameGraph := graph_run accepted.isSound config id seed suffixes moves
  have reads := traced.reads i spec phase (by rwa [sameGraph]) now
  rwa [sameGraph] at reads

/-- What a stage at work has for an input that is for more than diagnosis comes from one source, or
is the default of the slot where the source has nothing or null. If the name has a producer, the
stage waits for it and it is done, and the source is what it has stored. If the name is an
attribute, the source is the seed. Otherwise the source has nothing, unless it is what some stage
has stored under the name of an internal output. -/
theorem run_inputs {stages : List StageSpec} {attributes : Contract} {given : Suffixes}
    {graph : Graph} (accepted : graph.Accepts stages attributes given)
    (seeded : ∀ name, seed.contains name = true → attributes.contains name = true)
    (config : ExecutorConfig) (id : String) (suffixes : Suffixes) (moves : List Move) :
    let first := start config id graph seed suffixes
    let e := (first.run moves).execution
    ∀ i spec inputs, graph.stages[i]? = some spec → e.phase? i = some (.working inputs) →
      ∀ slot ∈ spec.orderingInputs, ∃ source : Option Value,
        inputs.get? slot.name = (source.filter (fun v => !v.isNull)).or
          (spec.inputs.fallback? slot.name) ∧
        (spec.inputs.Distinct → spec.inputs.fallback? slot.name = slot.default?) ∧
        (∀ p, graph.producer? (spec.inputName slot.name) = some p →
          p ∈ graph.predecessors i ∧ e.state? p = some .done ∧
            ∀ v, source = some v ↔ first.HasStored moves p (spec.inputName slot.name) v) ∧
        (graph.producer? (spec.inputName slot.name) = none →
          attributes.contains (spec.inputName slot.name) = true →
            source = seed.get? (spec.inputName slot.name)) ∧
        (graph.producer? (spec.inputName slot.name) = none →
          attributes.contains (spec.inputName slot.name) = false → ∀ v, source = some v →
            ∃ j other, first.HasStored moves j (spec.inputName slot.name) v ∧
              graph.stages[j]? = some other ∧ ∃ output ∈ other.outputs.slots,
                output.isInternal = true ∧
                  other.outputName output.name = spec.inputName slot.name) := by
  intro first e i spec inputs place phase slot reads
  have begins := isSteady_start accepted.isSound config id seed suffixes
  have steady := begins.run moves
  have sameGraph : e.graph = graph := by rw [(begins.run_graph moves).1, graph_start]
  have named : e.graph.IsNamed := sameGraph ▸ accepted.isNamed
  have traced : e.IsTraced seed (first.HasStored moves) :=
    isTraced_run accepted.isSound accepted.isNamed
      (by rwa [accepted.checked.sameAttributes]) config id suffixes moves
  rw [← accepted.checked.sameAttributes, ← sameGraph] at seeded ⊢
  rw [← sameGraph] at place
  obtain ⟨read, count, all, bound, hasRead⟩ := traced.reads i spec _ place phase
  have member : slot ∈ spec.inputs.slots := (List.mem_filter.mp reads).1
  have same (provided : e.graph.provides (spec.inputName slot.name) = true) :
      read.get? slot.name = e.context.values.get? (spec.inputName slot.name) :=
    hasRead.get? all member ⟨reads, provided⟩
  refine ⟨read.get? slot.name, StageSpec.get?_of_bindRead bound (List.mem_map_of_mem member),
    fun distinct => Contract.fallback?_of_mem distinct member, ?_, ?_, ?_⟩
  · intro p produces
    have edge := named.reads i spec place slot reads p produces
    have running := steady.consistent.running phase
    have done := steady.consistent.cleared i _ running (.inr (.inl rfl)) p edge
    have other : e.graph.attributes.contains (spec.inputName slot.name) = false := by
      rw [sameGraph, accepted.checked.sameAttributes]
      rw [sameGraph, Graph.producer?, accepted.checked.producers] at produces
      exact accepted.checked.not_attribute produces
    refine ⟨edge, done, fun v => ?_⟩
    rw [same (by rw [Graph.provides, produces]; rfl)]
    exact traced.get?_of_producer named seeded produces other
  · intro nobody known
    rw [same (by rw [Graph.provides, known, Bool.or_true])]
    exact traced.get?_of_attribute named known
  -- What has been read here may have been stored or not, as it happens.
  · intro nobody unknown v found
    exact traced.exists_of_unprovided named seeded nobody unknown (hasRead.within _ v found).2

theorem run_inputs_pair :
    let seed : Dict Value := .ofList [("title", .string "Map")]
    let first := start ⟨1⟩ "e" .pair seed .numbered
    let moves : List Move := [.look, .start default, .rest, .enter 0, .enter 0,
      .deliver 0 ⟨[("sheet", .string "A1")], none⟩, .settle 0 default, .look, .start default, .rest,
      .enter 1, .enter 1]
    Graph.pair.Accepts Graph.pairStages Graph.pairAttributes .numbered ∧
      (∀ name, seed.contains name = true → Graph.pairAttributes.contains name = true) ∧
      ∃ inputs, (first.run moves).execution.phase? 1 = some (.working inputs) ∧
        ∃ source : Option Value, inputs.get? "sheet" = some (.string "A1") ∧
          inputs.get? "sheet" = (source.filter (fun v => !v.isNull)).or none ∧
          (first.run moves).execution.state? 0 = some .done ∧
            ∀ v, source = some v ↔ first.HasStored moves 0 "sheet" v := by
  intro seed first moves
  have seeded : ∀ name, seed.contains name = true → Graph.pairAttributes.contains name = true := by
    intro name member
    have title : name ∈ ["title"] := Dict.contains_iff_mem_keys.mp member
    rw [List.mem_singleton.mp title]
    decide
  have reads : ((first.run moves).execution.workspace? 1).map (·.inputs.get? "sheet") =
      some (some (.string "A1")) := by decide
  obtain ⟨w, there, found⟩ := Option.map_eq_some_iff.mp reads
  obtain ⟨spec, inputs, -, phase, rfl⟩ := phase?_of_workspace? there
  obtain ⟨source, bound, -, produced, -⟩ := run_inputs Graph.pair_accepted seeded ⟨1⟩ "e" .numbered
    moves 1 (Graph.step "bind" "sheet" "book") inputs rfl phase (.plain "sheet" .any .required)
    List.mem_cons_self
  obtain ⟨-, done, stored⟩ := produced 0 rfl
  exact ⟨Graph.pair_accepted, seeded, inputs, phase, source, found, bound, done, stored⟩

/-- A stage that keeps a note for diagnosis, and one that reads a note if there is one. -/
def noteStages : List StageSpec :=
  [⟨"draw", ∅, .ofSlots [.plain "note" .any .internal], ∅, ∅⟩,
    ⟨"bind", .ofSlots [.plain "note" .any (.hasDefault (.string "none"))], ∅, ∅, ∅⟩]

def notes : Graph := ⟨noteStages, ∅, [[], []], [[], []], ∅, [0, 1]⟩

/-- A stage reads the note of another one that it does not wait for, under a name that has no
producer and is no attribute. -/
theorem reads_from_stranger :
    notes.Accepts noteStages ∅ .numbered ∧ notes.producer? "note" = none ∧
      notes.attributes.contains "note" = false ∧ notes.predecessors 1 = [] ∧
      let s := (start ⟨1⟩ "e" notes ∅ .numbered).run
        [.look, .start default, .rest, .enter 0, .deliver 0 ⟨[("note", .string "seen")], none⟩,
          .settle 0 default, .look, .start default, .rest, .enter 1, .enter 1]
      (s.execution.workspace? 1).map
          (fun w => (w.inputs.get? "note", w.spec.inputs.fallback? "note")) =
        some (some (.string "seen"), some (.string "none")) :=
  ⟨⟨_, rfl⟩, rfl, rfl, rfl, by decide⟩

/-- A stage that reads two notes may find that one is not there yet, and then the other one, although
both are stored at once. -/
example :
    let notes : Contract := .ofSlots [.plain "first" .any .internal, .plain "second" .any .internal]
    let graph : Graph := ⟨[⟨"draw", ∅, notes, ∅, ∅⟩, ⟨"bind", notes, ∅, ∅, ∅⟩], ∅, [[], []],
      [[], []], ∅, [0, 1]⟩
    let s := (start ⟨2⟩ "e" graph ∅ .numbered).run
      [.look, .start default, .start default, .enter 1, .enter 0,
        .deliver 0 ⟨[("first", .bool true), ("second", .bool true)], none⟩, .enter 1, .enter 1]
    (s.execution.workspace? 1).map (·.inputs.toList) = some [("second", .bool true)] := by
  decide

end Shift

end Printworks
