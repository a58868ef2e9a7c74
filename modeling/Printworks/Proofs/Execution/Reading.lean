import Printworks.Proofs.Execution.Steps
import Printworks.Proofs.Stage.Delivery

/-!
# How stages read their inputs

A stage that has been started reads one input at a time, and others may store values in between. When
it has read them all it works on what it has read, or has ended. So what it works on are not the values
of any one time, unless there was nothing new under the names that it reads.
-/

namespace Printworks

namespace StageSpec

variable {spec : StageSpec} {sure : Slot → Prop} {values values' read inputs : Dict Value}
  {count : Nat} {phase : Phase}

/-- What a stage that has read the first of its inputs comes to next. -/
inductive Proceeds (spec : StageSpec) (values read : Dict Value) (count : Nat) : Phase → Prop
  | reads {slot : Slot} (here : spec.inputs.slots[count]? = some slot) :
      Proceeds spec values read count (.dispatched (spec.readInput values read slot) (count + 1))
  | works {inputs : Dict Value} (all : spec.inputs.slots[count]? = none)
      (bound : spec.bindRead read = .ok inputs) : Proceeds spec values read count (.working inputs)
  | refuses {error : StageError} (all : spec.inputs.slots[count]? = none)
      (bound : spec.bindRead read = .error error) :
      Proceeds spec values read count (.ended (.error error))

/-- A stage stores nothing while it reads. -/
theorem Proceeds.ne_ok (proceeds : spec.Proceeds values read count phase) (names : List String) :
    phase ≠ .ended (.ok names) := by
  cases proceeds <;> simp

/-- Whether what a stage has come to bears out what it has read. -/
def Informs (spec : StageSpec) (sure : Slot → Prop) (values : Dict Value) (phase : Phase) : Prop :=
  match phase with
  | .dispatched read count => spec.HasRead sure values read count
  | .working inputs => ∃ read count, spec.inputs.slots[count]? = none ∧
      spec.bindRead read = .ok inputs ∧ spec.HasRead sure values read count
  | .ended _ => True

theorem HasRead.proceed (h : spec.HasRead sure values read count)
    (proceeds : spec.Proceeds values read count phase) : spec.Informs sure values phase := by
  cases proceeds with
  | reads here => exact h.next here
  | works all bound => exact ⟨read, count, all, bound, h⟩
  | refuses _ _ => trivial

theorem Informs.mono (h : spec.Informs sure values phase)
    (grows : ∀ slot ∈ spec.inputs.slots, ∀ v, values.get? (spec.inputName slot.name) = some v →
      values'.get? (spec.inputName slot.name) = some v)
    (same : ∀ slot ∈ spec.inputs.slots, sure slot →
      values'.get? (spec.inputName slot.name) = values.get? (spec.inputName slot.name)) :
    spec.Informs sure values' phase := by
  cases phase with
  | dispatched read count => exact HasRead.mono h grows same
  | working inputs =>
    obtain ⟨read, count, all, bound, reads⟩ := h
    exact ⟨read, count, all, bound, reads.mono grows same⟩
  | ended result => trivial

/-- Where all slots are sure to find their values, a stage works on what there is now. -/
theorem Informs.bindInputs (h : spec.Informs (fun _ => True) values (.working inputs)) :
    spec.bindInputs values = .ok inputs := by
  obtain ⟨read, count, all, bound, reads⟩ := h
  rwa [StageSpec.bindInputs, ← reads.eq_readInputs all]

end StageSpec

namespace Execution

variable {e e' : Execution} {i : Nat}

theorem enter_of_dispatched {spec : StageSpec} {read : Dict Value} {count : Nat}
    (place : e.graph.stages[i]? = some spec) (phase : e.phase? i = some (.dispatched read count)) :
    ∃ new, spec.Proceeds e.context.values read count new ∧ e.enter i = e.setPhase i new := by
  cases next : spec.inputs.slots[count]? with
  | some slot => exact ⟨_, .reads next, by simp only [enter, place, phase, next]⟩
  | none =>
    cases bound : spec.bindRead read with
    | ok inputs => exact ⟨_, .works next bound, by simp only [enter, place, phase, next, bound]⟩
    | error error => exact ⟨_, .refuses next bound, by simp only [enter, place, phase, next, bound]⟩

/-- To go on reading is for the stage alone to come to its next phase, if it does anything. -/
theorem enter_cases (e : Execution) (i : Nat) : e.enter i = e ∨
    ∃ (spec : StageSpec) (read : Dict Value) (count : Nat) (new : Phase),
      spec.Proceeds e.context.values read count new ∧ e.enter i = e.setPhase i new := by
  cases place : e.graph.stages[i]? with
  | none => exact .inl (by simp only [enter, place])
  | some spec =>
    cases phase : e.phase? i with
    | none => exact .inl (by simp only [enter, place, phase])
    | some p =>
      cases p with
      | dispatched read count => exact .inr ⟨spec, read, count, enter_of_dispatched place phase⟩
      | working inputs => exact .inl (by simp only [enter, place, phase])
      | ended result => exact .inl (by simp only [enter, place, phase])

/-- Whether what all running stages have come to bears out what they have read. -/
def IsInformed (sure : StageSpec → Slot → Prop) (e : Execution) : Prop :=
  ∀ i spec phase, e.graph.stages[i]? = some spec → e.phase? i = some phase →
    spec.Informs (sure spec) e.context.values phase

namespace IsInformed

variable {sure : StageSpec → Slot → Prop}

/-- A change that keeps the values, and in which stages come to what the values bear out. -/
theorem of_phases (h : e.IsInformed sure) (graph : e'.graph = e.graph)
    (values : e'.context.values = e.context.values)
    (phases : ∀ i phase, e'.phase? i = some phase → e.phase? i = some phase ∨
      ∀ spec, e.graph.stages[i]? = some spec → spec.Informs (sure spec) e.context.values phase) :
    e'.IsInformed sure := by
  intro i spec phase place there
  rw [graph] at place
  rw [values]
  rcases phases i phase there with before | now
  · exact h i spec phase place before
  · exact now spec place

/-- A stage that has just been started has read nothing. -/
theorem dispatch (h : e.IsInformed sure) {rest : List Nat} (queue : e.ready = i :: rest)
    (fresh : i ∉ e.inFlight.map (·.stage)) (now : Instant) : (e.dispatch now).IsInformed sure := by
  have frame := dispatch_of_ready queue now
  refine h.of_phases (by rw [frame]) (by rw [frame]) (fun j phase there => ?_)
  rw [phase?_dispatch queue fresh] at there
  split at there
  next =>
    cases there
    exact .inr (fun spec _ => .start spec _ _)
  next => exact .inl there

theorem setPhase (h : e.IsInformed sure) {spec : StageSpec} {phase new : Phase}
    (place : e.graph.stages[i]? = some spec) (now : e.phase? i = some phase)
    (informs : spec.Informs (sure spec) e.context.values new) : (e.setPhase i new).IsInformed sure := by
  refine h.of_phases rfl rfl (fun j phase' there => ?_)
  rw [phase?_setPhase_of now] at there
  by_cases same : j = i
  · subst same
    rw [if_pos rfl] at there
    cases there
    refine .inr (fun spec' place' => ?_)
    cases place.symm.trans place'
    exact informs
  · rw [if_neg same] at there
    exact .inl there

/-- A stage that ends may store values, as long as others still find what they have read, and nothing
new where they were sure to find their values. -/
theorem store (h : e.IsInformed sure) {phase : Phase} (now : e.phase? i = some phase) {after : Context}
    (reads : ∀ j spec phase, e.graph.stages[j]? = some spec → e.phase? j = some phase →
      ∀ slot ∈ spec.inputs.slots,
        (∀ v, e.context.values.get? (spec.inputName slot.name) = some v →
          after.values.get? (spec.inputName slot.name) = some v) ∧
        (sure spec slot → after.values.get? (spec.inputName slot.name) =
          e.context.values.get? (spec.inputName slot.name)))
    (result : Except StageError (List String)) :
    ({ e with context := after }.setPhase i (.ended result)).IsInformed sure := by
  intro j spec phase' place there
  rw [phase?_setPhase_of (e := { e with context := after }) now] at there
  by_cases same : j = i
  -- Of a stage that has ended nothing is asked.
  · rw [if_pos same] at there
    cases there
    trivial
  · rw [if_neg same] at there
    have each := reads j spec phase' place there
    exact (h j spec phase' place there).mono (fun slot member => (each slot member).1)
      (fun slot member => (each slot member).2)

end IsInformed

end Execution

end Printworks
