import Printworks.Proofs.Execution.Ending
import Printworks.Proofs.Execution.Sequential

/-!
# What an execution stores

When each stage is a function of its inputs, what a stage has stored at any time of an execution is
what it makes of the values. The values are those of now, not those that it has read: they agree,
because everything that a started stage reads has been settled before. So an execution in which
nothing is left to do solves the equations of its graph.
-/

namespace Printworks

namespace Execution

variable {crew : Crew} {seed : Dict Value} {e e' : Execution}

/-- Whether a stage has ended as it does on the given values, and has stored what it delivers. -/
def Settled (g : Graph) (id : String) (crew : Crew) (values : Dict Value) (i : Nat)
    (spec : StageSpec) (result : Except StageError (List String)) : Prop :=
  (∀ error, result = .error error ↔ verdict id crew i spec values = .error error) ∧
    g.Leaves i (verdict id crew i spec values) values

/-- Whether a stage has ended. -/
def HasDelivered (e : Execution) (i : Nat) : Prop :=
  (∃ result, e.phase? i = some (.ended result)) ∨ e.state? i = some .done ∨
    e.state? i = some .failed

theorem IsConsistent.not_hasDelivered (books : e.IsConsistent) {i : Nat} {p : Phase}
    (phase : e.phase? i = some p) (active : ∀ result, p ≠ .ended result) : ¬ e.HasDelivered i := by
  have running := books.running phase
  rintro (⟨result, other⟩ | other | other)
  · rw [phase] at other
    exact active result (Option.some.inj other)
  · rw [running] at other
    cases other
  · rw [running] at other
    cases other

namespace HasDelivered

variable {i j : Nat}

/-- A stage that was ready had not ended. -/
theorem dispatch (before : e.HasDelivered j) (books : e.IsConsistent) {rest : List Nat}
    (queue : e.ready = i :: rest) (now : Instant) : (e.dispatch now).HasDelivered j := by
  have ready : e.state? i = some .ready := (books.ready i).mp (by simp [queue])
  have idle : e.phase? i = none := books.phase?_eq_none (by simp [ready])
  have ne : j ≠ i := by
    rcases before with ⟨result, phase⟩ | state | state
    · rintro rfl
      rw [idle] at phase
      cases phase
    · exact ne_of_state? state ready (by simp)
    · exact ne_of_state? state ready (by simp)
  rw [HasDelivered, phase?_dispatch queue (books.not_mem_inFlight queue) now,
    state?_dispatch queue now, if_neg ne, if_neg ne]
  exact before

theorem setPhase (before : e.HasDelivered j) (busy : ¬ e.HasDelivered i) (new : Phase) :
    (e.setPhase i new).HasDelivered j := by
  have ne : j ≠ i := by
    rintro rfl
    exact busy before
  rw [HasDelivered, phase?_setPhase, if_neg ne]
  exact before

theorem settle_ok (before : e.HasDelivered j) (books : e.IsConsistent) {outputs : List String}
    (ended : e.phase? i = some (.ended (.ok outputs))) (now : Instant) :
    (e.settle i now).HasDelivered j := by
  have running := books.running ended
  have phases := phase?_filter (books.inFlight_settle ended now)
  have states := (isCompleted_settle now (books.sound.edges.dependents i) ended).state? running
  by_cases eq : j = i
  · exact .inr (.inl (by rw [states, if_pos eq]))
  -- A stage that does not wait keeps its state.
  · have kept {s : StageState} (other : s ≠ .waiting) (state : e.state? j = some s) :
        (e.settle i now).state? j = some s := by
      rw [states, if_neg eq, if_neg, state]
      intro frees
      exact other (Option.some.inj (state.symm.trans frees.2.1))
    refine before.imp ?_ (Or.imp (kept (by simp)) (kept (by simp)))
    rintro ⟨r, there⟩
    exact ⟨r, by rw [phases, if_neg eq, there]⟩

theorem settle_error (before : e.HasDelivered j) (books : e.IsConsistent) {error : StageError}
    (ended : e.phase? i = some (.ended (.error error))) (now : Instant) :
    (e.settle i now).HasDelivered j := by
  have running := books.running ended
  have phases := phase?_filter (books.inFlight_settle ended now)
  have failed := isFailed_settle now (Graph.IsSound.nodup_transitiveDependents i) ended
  by_cases eq : j = i
  · subst eq
    exact .inr (.inr (failed.state?_self running))
  -- A stage that has been started keeps its state.
  · have kept {s : StageState} (other : ¬ IsPendingState s) (state : e.state? j = some s) :
        (e.settle i now).state? j = some s := by
      rw [failed.state?_of_free books.sound eq, state]
      intro blocks
      apply other
      rcases isPending_iff.mp blocks.2 with pending | pending
      · exact .inl (Option.some.inj (state.symm.trans pending))
      · exact .inr (Option.some.inj (state.symm.trans pending))
    refine before.imp ?_ (Or.imp (kept (by simp [IsPendingState])) (kept (by simp [IsPendingState])))
    rintro ⟨r, there⟩
    exact ⟨r, by rw [phases, if_neg eq, there]⟩

theorem settle (before : e.HasDelivered j) (books : e.IsConsistent)
    {result : Except StageError (List String)} (ended : e.phase? i = some (.ended result))
    (now : Instant) : (e.settle i now).HasDelivered j := by
  cases result with
  | ok outputs => exact before.settle_ok books ended now
  | error error => exact before.settle_error books ended now

end HasDelivered

/-- Whether the values are those that the stages give which have ended. -/
structure IsFaithful (crew : Crew) (seed : Dict Value) (e : Execution) : Prop where
  unowned : ∀ name, e.graph.producer? name = none →
    e.context.values.get? name = seed.get? name
  spared : ∀ i, ¬ e.HasDelivered i → e.graph.Spares i e.context.values
  reads : e.IsInformed (fun _ _ => True)
  ended : ∀ i spec result, e.graph.stages[i]? = some spec → e.phase? i = some (.ended result) →
    Settled e.graph e.id crew e.context.values i spec result
  done : ∀ i spec, e.graph.stages[i]? = some spec → e.state? i = some .done →
    ∃ names, Settled e.graph e.id crew e.context.values i spec (.ok names)
  failed : ∀ i spec r, e.graph.stages[i]? = some spec → e.reports[i]? = some r →
    r.state = .failed → ∃ error, r.error = some error.message ∧
      Settled e.graph e.id crew e.context.values i spec (.error error)

namespace IsFaithful

/-- A change that keeps the values, and the phase and report of every stage but some that have not
ended by then. -/
theorem of_values (h : e.IsFaithful crew seed) (graph : e'.graph = e.graph) (id : e'.id = e.id)
    (values : e'.context.values = e.context.values)
    (delivered : ∀ i, e.HasDelivered i → e'.HasDelivered i)
    (reads : e'.IsInformed (fun _ _ => True))
    (ended : ∀ i result, e'.phase? i = some (.ended result) →
      e.phase? i = some (.ended result) ∨ ∀ spec, e.graph.stages[i]? = some spec →
        Settled e.graph e.id crew e.context.values i spec result)
    (done : ∀ i, e'.state? i = some .done → e.state? i = some .done ∨
      ∃ names, e.phase? i = some (.ended (.ok names)))
    (failed : ∀ (i : Nat) r, e'.reports[i]? = some r → r.state = .failed →
      e.reports[i]? = some r ∨ ∃ error, e.phase? i = some (.ended (.error error)) ∧
        r.error = some error.message) : e'.IsFaithful crew seed := by
  refine ⟨?_, ?_, reads, ?_, ?_, ?_⟩
  · rw [graph, values]
    exact h.unowned
  · intro i idle
    rw [graph, values]
    exact h.spared i (fun before => idle (delivered i before))
  · intro i spec result place phase
    rw [graph] at place
    rw [graph, id, values]
    rcases ended i result phase with before | now
    · exact h.ended i spec result place before
    · exact now spec place
  · intro i spec place state
    rw [graph] at place
    rw [graph, id, values]
    rcases done i state with before | ⟨names, phase⟩
    · exact h.done i spec place before
    · exact ⟨names, h.ended i spec _ place phase⟩
  · intro i spec r place found state
    rw [graph] at place
    rw [graph, id, values]
    rcases failed i r found state with before | ⟨error, phase, reason⟩
    · exact h.failed i spec r place before state
    · exact ⟨error, reason, h.ended i spec _ place phase⟩

theorem of_eq (h : e.IsFaithful crew seed) (graph : e'.graph = e.graph) (id : e'.id = e.id)
    (values : e'.context.values = e.context.values) (inFlight : e'.inFlight = e.inFlight)
    (reports : e'.reports = e.reports) : e'.IsFaithful crew seed := by
  have phase (i : Nat) : e'.phase? i = e.phase? i := by rw [phase?, inFlight, phase?]
  have state (i : Nat) : e'.state? i = e.state? i := by rw [state?, reports, state?]
  have reads := h.reads.of_phases graph values (fun i _ there => .inl (phase i ▸ there))
  refine h.of_values graph id values ?_ reads
    (fun i _ there => .inl (phase i ▸ there)) (fun i there => .inl (state i ▸ there))
    (fun _ _ found _ => .inl (reports ▸ found))
  intro i delivered
  rwa [HasDelivered, phase, state]

theorem observe (h : e.IsFaithful crew seed) (signalled : Bool) :
    (e.observe signalled).IsFaithful crew seed :=
  h.of_eq rfl rfl rfl rfl rfl

theorem supply (h : e.IsFaithful crew seed) (suffixes : Suffixes) :
    (e.supply suffixes).IsFaithful crew seed :=
  h.of_eq rfl rfl rfl rfl rfl

theorem dispatch (h : e.IsFaithful crew seed) (books : e.IsConsistent) {i : Nat} {rest : List Nat}
    (queue : e.ready = i :: rest) (now : Instant) : (e.dispatch now).IsFaithful crew seed := by
  have ready : e.state? i = some .ready := (books.ready i).mp (by simp [queue])
  have fresh := books.not_mem_inFlight queue
  have phases := phase?_dispatch queue fresh now
  have states := state?_dispatch queue now
  have frame := dispatch_of_ready queue now
  refine h.of_values (by rw [frame]) (by rw [frame]) (by rw [frame]) ?_
    (h.reads.dispatch queue fresh now) ?_ ?_ ?_
  · exact fun j before => before.dispatch books queue now
  · intro j result phase
    rw [phases] at phase
    split at phase
    next => cases phase
    next => exact .inl phase
  · intro j state
    rw [states] at state
    split at state
    next => simp [ready] at state
    next => exact .inl state
  · intro j r found state
    rw [reports_dispatch queue] at found
    obtain ⟨r', before, rfl⟩ := Option.map_eq_some_iff.mp found
    split at state
    next => cases state
    next ne =>
      rw [if_neg ne]
      exact .inl before

/-- A stage that has not ended may come to any phase that the values bear out. -/
theorem setPhase (h : e.IsFaithful crew seed) {i : Nat} {spec : StageSpec} {phase new : Phase}
    (place : e.graph.stages[i]? = some spec) (now : e.phase? i = some phase)
    (busy : ¬ e.HasDelivered i)
    (informs : spec.Informs (fun _ => True) e.context.values new)
    (ends : ∀ result, new = .ended result →
      Settled e.graph e.id crew e.context.values i spec result) :
    (e.setPhase i new).IsFaithful crew seed := by
  have phases := fun j => phase?_setPhase e i j new
  refine h.of_values rfl rfl rfl ?_ (h.reads.setPhase place now informs) ?_
    (fun _ state => .inl state) (fun _ _ found _ => .inl found)
  · exact fun j before => before.setPhase busy new
  · intro j result there
    rw [phases] at there
    by_cases eq : j = i
    · subst eq
      rw [if_pos rfl, now] at there
      refine .inr (fun spec' place' => ?_)
      cases place.symm.trans place'
      exact ends result (Option.some.inj there)
    · rw [if_neg eq] at there
      exact .inl there

theorem enter (h : e.IsFaithful crew seed) (books : e.IsConsistent) {i : Nat} {read : Dict Value}
    {count : Nat} (phase : e.phase? i = some (.dispatched read count)) :
    (e.enter i).IsFaithful crew seed := by
  obtain ⟨spec, new, place, proceeds, eq⟩ := books.enter_of_dispatched phase
  have busy := books.not_hasDelivered phase (by simp)
  have spared := h.spared i busy
  have reads : spec.HasRead (fun _ => True) e.context.values read count :=
    h.reads i spec _ place phase
  rw [eq]
  apply h.setPhase place phase busy (reads.proceed proceeds)
  rintro result rfl
  -- A stage whose inputs do not fit fails on these values, and has stored nothing.
  cases proceeds with
  | @refuses error all bound =>
    rw [reads.eq_readInputs all] at bound
    have made : verdict e.id crew i spec e.context.values = .error error := by
      simp only [verdict, StageSpec.bindInputs, bound]
    exact ⟨fun error' => by rw [made]; simp, by rw [made]; exact spared⟩

/-- What a stage has stored is as it was when another one stores that it does not wait for. -/
theorem settled_of_apart {g : Graph} (plain : g.IsPlain) {id : String} {i j : Nat}
    {spec : StageSpec} (place : g.stages[j]? = some spec) (ne : j ≠ i)
    (apart : i ∉ g.predecessors j) {a b : Dict Value}
    (others : ∀ name, g.producer? name ≠ some i → b.get? name = a.get? name)
    {result : Except StageError (List String)} (settled : Settled g id crew a j spec result) :
    Settled g id crew b j spec result := by
  obtain ⟨ends, leaves⟩ := settled
  have same : verdict id crew j spec b = verdict id crew j spec a :=
    Graph.verdict_congr (plain.reads_apart place apart others)
  rw [Settled, same]
  exact ⟨ends, leaves.of_ne ne others⟩

/-- A stage that ends stores what it delivers. Whatever else has been started does not see that,
because what it waits for is done. -/
theorem settledBy (h : e.IsFaithful crew seed) (books : e.IsConsistent) (plain : e.graph.IsPlain)
    {i : Nat} {spec : StageSpec} {inputs : Dict Value} (place : e.graph.stages[i]? = some spec)
    (phase : e.phase? i = some (.working inputs)) {result : Except StageError (List String)}
    {after : Context} (others : ∀ name, e.graph.producer? name ≠ some i →
      after.values.get? name = e.context.values.get? name)
    (settled : Settled e.graph e.id crew after.values i spec result) :
    ({ e with context := after }.setPhase i (.ended result)).IsFaithful crew seed := by
  have running := books.running phase
  have phases : ∀ j, ({ e with context := after }.setPhase i (.ended result)).phase? j =
      if j = i then some (.ended result) else e.phase? j :=
    phase?_setPhase_of (e := { e with context := after }) phase (.ended result)
  -- The stages that have been started have all that they wait for done, and the stage is not done.
  have apart (j : Nat) (s : StageState) (state : e.state? j = some s) (cleared : IsCleared s) :
      i ∉ e.graph.predecessors j := by
    intro edge
    have done := books.cleared j s state cleared i edge
    rw [running] at done
    cases done
  refine ⟨?_, ?_, ?_, ?_, ?_, ?_⟩
  · intro name nobody
    have unowned : e.graph.producer? name = none := nobody
    exact (others name (by rw [unowned]; simp)).trans (h.unowned name unowned)
  · intro j idle
    have ne : j ≠ i := by
      rintro rfl
      exact idle (.inl ⟨result, by rw [phases, if_pos rfl]⟩)
    refine Graph.Spares.of_ne (h.spared j (fun before => idle ?_)) ne others
    rw [HasDelivered, phases, if_neg ne]
    exact before
  · refine h.reads.store phase (fun j spec' phase' place' there slot member => ?_) result
    have active := books.running there
    have unseen := plain.reads_apart place' (apart j _ active (.inr (.inl rfl))) others slot member
    exact ⟨fun v found => unseen.trans found, fun _ => unseen⟩
  · intro j spec' result' place' there
    rw [phases] at there
    by_cases eq : j = i
    · subst eq
      rw [if_pos rfl] at there
      cases there
      cases place.symm.trans place'
      exact settled
    · rw [if_neg eq] at there
      have active := books.running there
      exact settled_of_apart plain place' eq (apart j _ active (.inr (.inl rfl))) others
        (h.ended j spec' result' place' there)
  · intro j spec' place' state
    have before : e.state? j = some .done := state
    have ne : j ≠ i := ne_of_state? before running (by simp)
    obtain ⟨names, kept⟩ := h.done j spec' place' before
    exact ⟨names, settled_of_apart plain place' ne
      (apart j _ before (.inr (.inr (.inl rfl)))) others kept⟩
  · intro j spec' r place' found state
    have before : e.state? j = some .failed := Option.map_eq_some_iff.mpr ⟨r, found, state⟩
    have ne : j ≠ i := ne_of_state? before running (by simp)
    obtain ⟨error, reason, kept⟩ := h.failed j spec' r place' found state
    exact ⟨error, reason, settled_of_apart plain place' ne
      (apart j _ before (.inr (.inr (.inr rfl)))) others kept⟩

theorem deliver (h : e.IsFaithful crew seed) (books : e.IsConsistent) (plain : e.graph.IsPlain)
    {i : Nat} {w : Workspace} (workspace : e.workspace? i = some w) {conduct : Conduct}
    (usual : ∀ inputs, e.phase? i = some (.working inputs) → conduct = crew i inputs) :
    (e.deliver i (conduct.play w)).IsFaithful crew seed := by
  obtain ⟨spec, inputs, place, phase, rfl⟩ := Shift.phase?_of_workspace? workspace
  cases usual inputs phase
  have busy := books.not_hasDelivered phase (by simp)
  obtain ⟨others, ends, leaves⟩ := plain.stored place (c := e.context)
    (fun w' played => Conduct.play_spec (Workspace.isDeclared_start e.id spec inputs) played)
    (h.spared i busy)
  have made : verdict e.id crew i spec e.context.values =
      delivered ((crew i inputs).play (Workspace.start e.id spec inputs)) := by
    simp only [verdict, (h.reads i spec _ place phase).bindInputs]
  have self : i ∉ e.graph.predecessors i := fun edge =>
    books.sound.not_leads_self i (.single edge)
  -- It has read the values before it stored its own, and it does not read those.
  rw [← made, ← Graph.verdict_congr (plain.reads_apart place self others)] at ends leaves
  exact h.settledBy books plain place phase others ⟨ends, leaves⟩

/-! Taking note of an end moves what is known of it from the phase of the stage to its report. -/

theorem settle_ok (h : e.IsFaithful crew seed) (books : e.IsConsistent) {i : Nat}
    {outputs : List String} (ended : e.phase? i = some (.ended (.ok outputs))) (now : Instant) :
    (e.settle i now).IsFaithful crew seed := by
  have running := books.running ended
  have phases := phase?_filter (books.inFlight_settle ended now)
  have done := isCompleted_settle now (books.sound.edges.dependents i) ended
  have states := done.state? running
  apply h.of_values (by rw [done.frame]) (by rw [done.frame]) (by rw [done.frame])
  · exact fun j before => before.settle books ended now
  · exact h.reads.of_phases (by rw [done.frame]) (by rw [done.frame])
      (fun j phase there => .inl (phase?_of_filter phases there))
  · exact fun j result there => .inl (phase?_of_filter phases there)
  · intro j state
    rw [states] at state
    by_cases eq : j = i
    · subst eq
      exact .inr ⟨outputs, ended⟩
    · rw [if_neg eq] at state
      split at state
      next => cases state
      next => exact .inl state
  · intro j r found state
    rw [done.reports] at found
    obtain ⟨r', before, rfl⟩ := Option.map_eq_some_iff.mp found
    split at state
    next => cases state
    next ne =>
      split at state
      next => cases state
      next free =>
        rw [if_neg ne, if_neg free]
        exact .inl before

theorem settle_error (h : e.IsFaithful crew seed) (books : e.IsConsistent) {i : Nat}
    {error : StageError} (ended : e.phase? i = some (.ended (.error error))) (now : Instant) :
    (e.settle i now).IsFaithful crew seed := by
  have running := books.running ended
  have phases := phase?_filter (books.inFlight_settle ended now)
  have failed := isFailed_settle now (Graph.IsSound.nodup_transitiveDependents i) ended
  apply h.of_values (by rw [failed.frame]) (by rw [failed.frame]) (by rw [failed.frame])
  · exact fun j before => before.settle books ended now
  · exact h.reads.of_phases (by rw [failed.frame]) (by rw [failed.frame])
      (fun j phase there => .inl (phase?_of_filter phases there))
  · exact fun j result there => .inl (phase?_of_filter phases there)
  · intro j state
    have ne : j ≠ i := ne_of_state? state (failed.state?_self running) (by simp)
    exact .inl ((failed.state?_iff books running (.inr (.inr rfl)) ne).mp state)
  · intro j r found state
    rw [failed.reports] at found
    obtain ⟨r', before, rfl⟩ := Option.map_eq_some_iff.mp found
    split at state
    next eq =>
      subst eq
      rw [if_pos rfl]
      exact .inr ⟨error, ended, rfl⟩
    next ne =>
      split at state
      next => cases state
      next free =>
        rw [if_neg ne, if_neg free]
        exact .inl before

theorem settle (h : e.IsFaithful crew seed) (books : e.IsConsistent) {i : Nat}
    {result : Except StageError (List String)} (ended : e.phase? i = some (.ended result))
    (now : Instant) : (e.settle i now).IsFaithful crew seed := by
  cases result with
  | ok outputs => exact h.settle_ok books ended now
  | error error => exact h.settle_error books ended now

end IsFaithful

theorem isFaithful_start {graph : Graph} (plain : graph.IsPlain) (id : String)
    (attributes : ∀ name, seed.contains name = true → graph.attributes.contains name = true)
    (suffixes : Suffixes) : (start id graph seed suffixes).IsFaithful crew seed := by
  have reports := getElem?_reports_start id graph seed suffixes
  have frame := start_frame id graph seed suffixes
  generalize start id graph seed suffixes = e at reports frame ⊢
  have graph_ : e.graph = graph := by rw [frame]
  have values : e.context.values = seed := by rw [frame]
  have idle (i : Nat) : e.phase? i = none := by
    rw [phase?, show e.inFlight = [] by rw [frame]]
    rfl
  have fresh (i : Nat) (r : StageReport) (found : e.reports[i]? = some r) :
      r.state = .ready ∨ r.state = .waiting :=
    pending_of_start (reports i ▸ found)
  refine ⟨?_, ?_, ?_, ?_, ?_, ?_⟩
  · intro name _
    rw [values]
  · intro i _
    rw [graph_, values]
    exact plain.spares_seed attributes i
  · intro i spec inputs _ phase
    rw [idle] at phase
    cases phase
  · intro i spec result _ phase
    rw [idle] at phase
    cases phase
  · intro i spec _ state
    obtain ⟨r, found, same⟩ := Option.map_eq_some_iff.mp state
    rcases fresh i r found with other | other <;> simp [same] at other
  · intro i spec r _ found same
    rcases fresh i r found with other | other <;> simp [same] at other

/-! ### The end -/

section End

variable (none : e.inFlight = []) (idle : e.ready = [])

include none idle

theorem IsConsistent.fateOf_eq_done (books : e.IsConsistent) {i : Nat} (lt : i < e.graph.size) :
    fateOf e.reports i = .done ↔ e.state? i = some .done := by
  rcases books.final none idle i lt with state | state | state
  all_goals
    obtain ⟨r, found, same⟩ := Option.map_eq_some_iff.mp state
    simp [fateOf, found, Fate.ofReport, same, state]

/-- A stage is skipped exactly if one that it waits for is not done. -/
theorem IsConsistent.skipped_iff (books : e.IsConsistent) {i : Nat} :
    e.state? i = some .skipped ↔ ∃ p ∈ e.graph.predecessors i, fateOf e.reports p ≠ .done := by
  constructor
  · intro state
    obtain ⟨r, found, same⟩ := Option.map_eq_some_iff.mp state
    obtain ⟨a, failed, path, -⟩ := books.skipped i r found same
    -- The last step of the path comes from the failed stage, or from one that is skipped as well.
    obtain ⟨p, back, edge⟩ := Relation.TransGen.tail'_iff.mp path
    refine ⟨p, edge, fun done => ?_⟩
    rw [books.fateOf_eq_done none idle (books.sound.lt_of_mem_predecessors edge).1] at done
    rcases Relation.reflTransGen_iff_eq_or_transGen.mp back with rfl | path'
    · rw [failed] at done
      cases done
    · rw [books.blocked a p failed path'] at done
      cases done
  · rintro ⟨p, edge, undone⟩
    have inside := (books.sound.lt_of_mem_predecessors edge).1
    rw [Ne, books.fateOf_eq_done none idle inside] at undone
    rcases books.final none idle p inside with state | state | state
    · exact absurd state undone
    · exact books.blocked p i state (.single edge)
    · obtain ⟨r, found, same⟩ := Option.map_eq_some_iff.mp state
      obtain ⟨a, failed, path, -⟩ := books.skipped p r found same
      exact books.blocked a i failed (path.tail edge)

theorem IsFaithful.isFinal (h : e.IsFaithful crew seed) (books : e.IsConsistent) :
    ∀ r ∈ e.reports, r.IsFinal := by
  intro r member
  obtain ⟨i, found⟩ := List.getElem?_of_mem member
  have state : e.state? i = some r.state := by
    rw [state?, found]
    rfl
  have lt : i < e.graph.size := books.exists_state.mpr ⟨_, state⟩
  rcases books.final none idle i lt with same | same | same
  · exact .inl (Option.some.inj (state.symm.trans same))
  · have failed := Option.some.inj (state.symm.trans same)
    obtain ⟨error, reason, -⟩ := h.failed i _ r (List.getElem?_eq_getElem lt) found failed
    exact .inr (.inl ⟨failed, by rw [reason]; rfl⟩)
  · exact .inr (.inr (Option.some.inj (state.symm.trans same)))

/-- An execution in which nothing runs and nothing may start solves the equations of its graph. -/
theorem IsFaithful.isSolution (h : e.IsFaithful crew seed) (books : e.IsConsistent) :
    e.graph.IsSolution e.id crew seed e.context.values (fateOf e.reports) := by
  have fate {i : Nat} {r : StageReport} (found : e.reports[i]? = some r) :
      fateOf e.reports i = .ofReport r := by
    rw [fateOf, found]
    rfl
  have gone (i : Nat) : e.phase? i = Option.none := by
    rw [phase?, none]
    rfl
  refine ⟨h.unowned, ?_, ?_⟩
  · intro i lt p edge undone
    have state := (books.skipped_iff none idle).mpr ⟨p, edge, undone⟩
    obtain ⟨r, found, same⟩ := Option.map_eq_some_iff.mp state
    refine ⟨by rw [fate found, Fate.ofReport, same], h.spared i ?_⟩
    rintro (⟨result, phase⟩ | other | other)
    · rw [gone] at phase
      cases phase
    · rw [state] at other
      cases other
    · rw [state] at other
      cases other
  · intro i spec place clear
    have lt : i < e.graph.size := (List.getElem?_eq_some_iff.mp place).1
    rcases books.final none idle i lt with state | state | state
    · obtain ⟨names, ok, leaves⟩ := h.done i spec place state
      refine ⟨?_, leaves⟩
      rw [(books.fateOf_eq_done none idle lt).mpr state]
      cases made : verdict e.id crew i spec e.context.values with
      | ok writes => rfl
      | error error => cases (ok error).mpr made
    · obtain ⟨r, found, same⟩ := Option.map_eq_some_iff.mp state
      obtain ⟨error, reason, failed, leaves⟩ := h.failed i spec r place found same
      refine ⟨?_, leaves⟩
      rw [(failed error).mp rfl, fate found, Fate.ofReport, same, reason]
      rfl
    -- It is not skipped, for all that it waits for is done.
    · obtain ⟨p, edge, undone⟩ := (books.skipped_iff none idle).mp state
      exact absurd (clear p edge) undone

end End

end Execution

end Printworks
