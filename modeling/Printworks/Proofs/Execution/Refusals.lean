import Printworks.Proofs.Execution.Cancellation
import Printworks.Proofs.Graph.Satisfiable
import Printworks.Proofs.Graph.Sources
import Printworks.Proofs.Stage.Typing

/-!
# Why inputs are refused

A contract is broken by what a stage has read, or a stage says so of itself. If the seed fits the
attributes and the declarations are well typed, all values fit what declares their names, whatever the
stages do. What is declared of a concrete type is then never refused for its type. What is required by
itself is refused as missing only if it is there but null.
-/

namespace Printworks

namespace Conduct

variable {c : Conduct} {w : Workspace} {outputs : Dict Value}

/-- What a stage ends with fits its slots. -/
theorem outcome_fits (typed : w.spec.outputs.IsTyped) (fits : w.spec.outputs.Fits w.outputs)
    (h : c.outcome w = .ok outputs) : w.spec.outputs.Fits outputs := by
  unfold outcome at h
  split at h
  next w' played =>
    obtain ⟨same, fits'⟩ := play_fits fits played
    rw [same] at h
    exact Workspace.completed_fits typed (fun slot member => member) fits' h
  next => cases h

/-- A stage that has succeeded leaves a value for each output that is required by itself or has a
default. -/
theorem outcome_assured (fits : w.spec.outputs.Fits w.outputs) (h : c.outcome w = .ok outputs)
    {slot : Slot} (member : slot ∈ w.spec.outputs.slots) (assured : slot.isAssured = true) :
    ∃ v, outputs.get? slot.name = some v := by
  unfold outcome at h
  split at h
  next w' played =>
    obtain ⟨same, -⟩ := play_fits fits played
    rw [same] at h
    exact Option.isSome_iff_exists.mp (Workspace.contains_of_isAssured h member assured)
  next => cases h

end Conduct

namespace Shift

variable {first : Shift} {i : Nat} {spec : StageSpec} {outputs seed : Dict Value}

/-- Whether one of some moves has ended a stage with an error of its own. -/
def FailsByItself (first : Shift) (moves : List Move) (i : Nat) (error : StageError) : Prop :=
  ∃ earlier conduct later w, moves = earlier ++ .deliver i conduct :: later ∧
    (first.run earlier).execution.workspace? i = some w ∧ conduct.error = some error

/-- Whether one of some moves has found what a stage has read to break its contract. -/
def IsRefused (first : Shift) (moves : List Move) (i : Nat) (spec : StageSpec)
    (violations : List Violation) : Prop :=
  ∃ earlier later read count, moves = earlier ++ .enter i :: later ∧
    (first.run earlier).execution.phase? i = some (.dispatched read count) ∧
    spec.inputs.slots[count]? = none ∧ violations = (spec.inputs.bindValues read).violations

/-- What has been delivered stays delivered. -/
theorem Delivers.append {moves : List Move} (delivers : first.Delivers moves i outputs)
    (more : List Move) : first.Delivers (moves ++ more) i outputs := by
  obtain ⟨earlier, m, later, rfl, ends⟩ := delivers
  exact ⟨earlier, m, later ++ more, by simp, ends⟩

variable {stages : List StageSpec} {attributes : Contract} {given : Suffixes} {graph : Graph}

/-- What a stage has delivered fits its outputs, and nothing that is required by itself or has a
default is left out. -/
theorem fits_of_delivers (accepted : graph.Accepts stages attributes given) (config : ExecutorConfig)
    (id : String) (suffixes : Suffixes) (moves : List Move) (typed : ∀ stage ∈ stages, stage.IsTyped)
    (place : graph.stages[i]? = some spec)
    (delivers : (start config id graph seed suffixes).Delivers moves i outputs) :
    spec.outputs.Fits outputs ∧ ∀ slot ∈ spec.outputs.slots, slot.isAssured = true →
      ∃ v, outputs.get? slot.name = some v := by
  obtain ⟨earlier, m, later, -, conduct, w, -, workspace, ends⟩ := delivers
  obtain ⟨spec', inputs, place', -, rfl⟩ := phase?_of_workspace? workspace
  rw [graph_run accepted.isSound, place] at place'
  cases place'
  obtain ⟨stage, member, -, same⟩ := accepted.exists_contracts place
  have own : spec.outputs.IsTyped := same ▸ (typed stage member).outputs
  have fits : spec.outputs.Fits ∅ := spec.outputs.fits_empty
  constructor
  · exact Conduct.outcome_fits own fits ends
  · exact fun slot member assured => Conduct.outcome_assured fits ends member assured

/-- What is reported of a stage that has failed, be it while others run or in the end, is the error
that one of the moves has ended it with. -/
theorem run_reported (accepted : graph.Accepts stages attributes given) (config : ExecutorConfig)
    (id : String) (suffixes : Suffixes) (moves : List Move) {r : StageReport}
    (reported : ((start config id graph seed suffixes).run moves).execution.reports[i]? = some r ∨
      ((start config id graph seed suffixes).run moves).place = .finished ∧
        ((start config id graph seed suffixes).run moves).concluded.report.stages[i]? = some r)
    (failed : r.state = .failed) : ∃ error : StageError, r.error = some error.message ∧
      (start config id graph seed suffixes).HasYielded moves i (.error error) := by
  have steady := (isSteady_start accepted.isSound config id seed suffixes).run moves
  have grounded := isGrounded_run accepted.isSound config id seed suffixes moves
  generalize (start config id graph seed suffixes).run moves = s at *
  rcases reported with now | ⟨finished, later⟩
  · exact grounded.failed i r now failed
  · have reports := Execution.reports_conclude s.signalled (idle_of_finished steady finished) i
    obtain ⟨before, there, rfl⟩ := Option.map_eq_some_iff.mp (reports.symm.trans later)
    -- Only what has not been started is closed.
    unfold StageReport.closed at failed ⊢
    split at failed
    next => cases failed
    next started =>
      rw [if_neg started]
      exact grounded.failed i before there failed

section

variable (accepted : graph.Accepts stages attributes given)
  (seeded : ∀ name, seed.contains name = true → attributes.contains name = true)
  (config : ExecutorConfig) (id : String) (suffixes : Suffixes) (moves : List Move)

include accepted seeded

/-- A broken contract is found when a stage has read its inputs, or the stage says so of itself. -/
theorem run_contract_error {violations : List Violation}
    (yielded : (start config id graph seed suffixes).HasYielded moves i
      (.error (.contract violations))) :
    (start config id graph seed suffixes).FailsByItself moves i (.contract violations) ∨
      ∃ spec, graph.stages[i]? = some spec ∧
        (start config id graph seed suffixes).IsRefused moves i spec violations := by
  obtain ⟨earlier, m, later, rfl, yields⟩ := yielded
  have kept := isKept_run accepted seeded config id suffixes earlier
  generalize eq : (.error (.contract violations) : Except StageError (List String)) = result at yields
  cases yields with
  | refused phase place all bound =>
    cases eq
    rw [graph_run accepted.isSound] at place
    refine .inr ⟨_, place, earlier, later, _, _, rfl, phase, all, ?_⟩
    simpa using StageSpec.bindRead_error bound
  | @delivered w workspace conduct =>
    -- To store outputs of an accepted graph never fails, so the error is what the stage has ended with.
    rw [kept.stored_play workspace conduct] at eq
    cases ends : conduct.outcome w with
    | ok outputs => simp [ends] at eq
    | error error =>
      simp only [ends, Except.error.injEq] at eq
      rcases Conduct.outcome_error ends with own | ⟨slot, missing⟩
      · exact .inl ⟨earlier, conduct, later, w, rfl, workspace, by rw [own, eq]⟩
      · rw [missing] at eq
        cases eq

end

/-! ### Types -/

section

variable (accepted : graph.Accepts stages attributes given)
  (typed : ∀ stage ∈ stages, stage.IsTyped) (fits : attributes.Fits seed)

theorem contains_of_fits (fits : attributes.Fits seed) (name : String)
    (there : seed.contains name = true) : attributes.contains name = true := by
  obtain ⟨v, found⟩ := Option.isSome_iff_exists.mp there
  obtain ⟨slot, known, -⟩ := fits name v found
  exact Option.isSome_iff_exists.mpr ⟨slot, known⟩

variable (config : ExecutorConfig) (id : String) (suffixes : Suffixes) (moves : List Move)

include accepted typed fits

/-- At any time each value fits what declares its name. -/
theorem run_fits {name : String} {source : Slot} {v : Value}
    (found : ((start config id graph seed suffixes).run moves).execution.context.values.get? name =
      some v) (declared : graph.source? name = some source) :
    v.type.satisfies source.type = true := by
  have seeded := contains_of_fits fits
  rcases (run_values accepted seeded config id suffixes moves name v).mp found with
    given_ | ⟨i, spec, outputs, key, place, delivers, there, rfl⟩
  · obtain ⟨slot, known, type⟩ := fits name v given_
    rw [accepted.source?_of_attribute known] at declared
    cases declared
    exact type
  · obtain ⟨fitting, -⟩ := fits_of_delivers accepted config id suffixes moves typed place
      delivers
    obtain ⟨slot, known, type⟩ := fitting key v there
    have member : slot ∈ spec.outputs.slots := List.mem_of_find?_eq_some known
    have named : slot.name = key := by simpa using List.find?_some known
    obtain ⟨stage, inside, -, same⟩ := accepted.exists_contracts place
    have distinct : spec.outputs.Distinct := same ▸ (typed stage inside).outputs.distinct
    rw [← named] at declared
    rwa [accepted.isNamed.source?_of_output place distinct member declared]

/-- An input that reads what is declared of a concrete type is never refused for the type of what it
gets. -/
theorem run_typeMismatch {violations : List Violation}
    (yielded : (start config id graph seed suffixes).HasYielded moves i
      (.error (.contract violations)))
    (place : graph.stages[i]? = some spec) {slot source : Slot} (reads : slot ∈ spec.orderingInputs)
    (declared : graph.source? (spec.inputName slot.name) = some source)
    (concrete : source.type ≠ .any) {expected : ValueType} {found : String}
    (mismatch : .typeMismatch slot.name expected found ∈ violations) :
    (start config id graph seed suffixes).FailsByItself moves i (.contract violations) := by
  rcases run_contract_error accepted (contains_of_fits fits) config id suffixes moves yielded with
    own | ⟨spec', place', earlier, later, read, count, -, phase, -, rfl⟩
  · exact own
  · rw [place] at place'
    cases place'
    have hasRead : spec.HasRead (graph.Secures spec) _ read count :=
      informs_run accepted (contains_of_fits fits) config id suffixes earlier place phase
    obtain ⟨v, slot', got, -, known, unfit, -, -⟩ := Contract.typeMismatch_mem.mp mismatch
    -- The slot that is found under the name is the one that reads.
    obtain ⟨stage, inside, same, -⟩ := accepted.exists_contracts place
    have distinct : spec.inputs.Distinct := same ▸ (typed stage inside).inputs.distinct
    have member : slot ∈ spec.inputs.slots := (Graph.mem_orderingInputs.mp reads).1
    rw [Contract.get?_of_mem distinct member] at known
    cases known
    have there := (hasRead.within slot.name v got).2
    have first := run_fits accepted typed fits config id suffixes earlier there declared
    have second := accepted.checked.satisfies_of_source? place reads declared
    rw [ValueType.satisfies_trans first second concrete] at unfit
    cases unfit

end

/-! ### Presence -/

/-- A stage that reads its inputs finds what the producers of their names have left. -/
theorem run_exists_output (accepted : graph.Accepts stages attributes given)
    (typed : ∀ stage ∈ stages, stage.IsTyped)
    (assured : ∀ stage ∈ stages, ∀ slot ∈ stage.outputs.slots, slot.isAssured = true)
    (seeded : ∀ name, seed.contains name = true → attributes.contains name = true)
    (config : ExecutorConfig) (id : String) (suffixes : Suffixes) (moves : List Move) {phase : Phase}
    (now : ((start config id graph seed suffixes).run moves).execution.phase? i = some phase)
    (place : graph.stages[i]? = some spec) {slot : Slot} (reads : slot ∈ spec.orderingInputs) {p : Nat}
    (produces : graph.producer? (spec.inputName slot.name) = some p) :
    ∃ outputs other output v, (start config id graph seed suffixes).Delivers moves p outputs ∧
      graph.stages[p]? = some other ∧ outputs.get? output = some v ∧
      other.outputName output = spec.inputName slot.name := by
  have kept := isKept_run accepted seeded config id suffixes moves
  -- The stage has not been started before its producers were done.
  have edge := accepted.isNamed.reads i spec place slot reads p produces
  rw [← graph_run accepted.isSound config id seed suffixes moves] at edge
  have running := kept.steady.consistent.running now
  have done := kept.steady.consistent.cleared i _ running (.inr (.inl rfl)) p edge
  obtain ⟨outputs, delivers⟩ :=
    (run_hasSucceeded accepted seeded config id suffixes moves).mp (.inr done)
  have distinct : ∀ stage ∈ stages, stage.outputs.Distinct :=
    fun stage inside => (typed stage inside).outputs.distinct
  obtain ⟨other, there, output, inside, writes⟩ := accepted.exists_output distinct produces
  obtain ⟨stage, declared, -, same⟩ := accepted.exists_contracts there
  obtain ⟨-, complete⟩ := fits_of_delivers accepted config id suffixes moves typed there delivers
  obtain ⟨v, left⟩ := complete output inside (assured stage declared output (same ▸ inside))
  exact ⟨outputs, other, output.name, v, delivers, there, left, writes⟩

/-- An input that is required by itself is refused as missing only where its producer is done and has
delivered null for it, or where it is an attribute that is null or absent in the seed. -/
theorem run_missingRequired (accepted : graph.Accepts stages attributes given)
    (typed : ∀ stage ∈ stages, stage.IsTyped)
    (assured : ∀ stage ∈ stages, ∀ slot ∈ stage.outputs.slots, slot.isAssured = true)
    (seeded : ∀ name, seed.contains name = true → attributes.contains name = true)
    (config : ExecutorConfig) (id : String) (suffixes : Suffixes) (moves : List Move)
    {violations : List Violation}
    (yielded : (start config id graph seed suffixes).HasYielded moves i
      (.error (.contract violations)))
    (place : graph.stages[i]? = some spec) {name : String}
    (missing : .missingRequired name ∈ violations) :
    (start config id graph seed suffixes).FailsByItself moves i (.contract violations) ∨
    (∃ p outputs other output, graph.producer? (spec.inputName name) = some p ∧
      (start config id graph seed suffixes).Delivers moves p outputs ∧
      graph.stages[p]? = some other ∧ outputs.get? output = some .null ∧
      other.outputName output = spec.inputName name) ∨
    attributes.contains (spec.inputName name) = true ∧
      ∀ v, seed.get? (spec.inputName name) = some v → v = .null := by
  rcases run_contract_error accepted seeded config id suffixes moves yielded with
    own | ⟨spec', place', earlier, later, read, count, rfl, phase, all, rfl⟩
  · exact .inl own
  · rw [place] at place'
    cases place'
    right
    have checked := accepted.checked
    have values := run_values accepted seeded config id suffixes earlier (spec.inputName name)
    obtain ⟨slot, member, required, rfl, nothing⟩ := StageSpec.missingRequired_read missing
    have kind := (Graph.isRequired_iff.mp required).1
    have reads : slot ∈ spec.orderingInputs :=
      Graph.mem_orderingInputs.mpr ⟨member, by simp [Slot.isInternal, kind]⟩
    -- A graph with an input that nothing provides would not have been built.
    have provided := checked.provides_of_required place member required
    have hasRead : spec.HasRead (graph.Secures spec) _ read count :=
      informs_run accepted seeded config id suffixes earlier place phase
    rw [hasRead.get? all member ⟨reads, provided⟩] at nothing
    rw [Graph.provides] at provided
    cases produces : graph.producer? (spec.inputName slot.name) with
    | some p =>
      obtain ⟨outputs, other, output, v, delivers, there, left, writes⟩ :=
        run_exists_output accepted typed assured seeded config id suffixes earlier phase place reads
          produces
      have stored := (values v).mpr (.inr ⟨p, other, outputs, output, there, delivers, left, writes⟩)
      cases nothing v stored
      exact .inl ⟨p, outputs, other, output, rfl, delivers.append _, there, left, writes⟩
    | none =>
      rw [produces, Option.isSome_none, Bool.false_or, checked.sameAttributes] at provided
      exact .inr ⟨provided, fun v found => nothing v ((values v).mpr (.inl found))⟩

end Shift

end Printworks
