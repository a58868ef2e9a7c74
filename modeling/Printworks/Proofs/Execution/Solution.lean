import Printworks.Proofs.Context
import Printworks.Proofs.Stage.Delivery
import Printworks.Execution.State

/-!
# What comes out of a graph

When each stage is a function of its inputs, what comes out of a graph can be said without saying
when anything happens. A stage is skipped if it waits for one that is not done. Any other one makes
what it makes of the values at the end, and the names that it owns have the values that it delivers.
These equations have one solution, because no stage waits for itself: so all ways to run the stages
that solve them end alike.
-/

namespace Printworks

/-- What each stage of a graph does with its inputs. -/
abbrev Crew := Nat → Dict Value → Conduct

/-- How a stage ends. -/
inductive Fate where
  | done
  | failed (message : String)
  | skipped
  deriving DecidableEq

namespace Fate

/-- The fate of a stage that is not skipped. -/
def ofVerdict {α : Type} (verdict : Except StageError α) : Fate :=
  match verdict with
  | .ok _ => done
  | .error error => failed error.message

/-- The fate that a report tells of. -/
def ofReport (r : StageReport) : Fate :=
  match r.state with
  | .done => done
  | .failed => failed (r.error.getD "")
  | _ => skipped

end Fate

/-- What a stage that has ended delivers. -/
def delivered (result : Except StageError Workspace) : Except StageError (List Write) :=
  match result with
  | .ok w => w.delivery
  | .error error => .error error

/-- What a stage makes of some values. -/
def verdict (id : String) (crew : Crew) (i : Nat) (spec : StageSpec) (values : Dict Value) :
    Except StageError (List Write) :=
  match spec.bindInputs values with
  | .ok inputs => delivered ((crew i inputs).play (Workspace.start id spec inputs))
  | .error error => .error error

/-- The value that a stage gives a name that it owns, if it gives it one. -/
def produced (verdict : Except StageError (List Write)) (name : String) : Option Value :=
  match verdict with
  | .ok writes => Entries.find? (writes.map (fun w => (w.name, w.value))) name
  | .error _ => none

/-- Whether the names that a stage owns have the values that it delivers. -/
def Graph.Leaves (g : Graph) (i : Nat) (verdict : Except StageError (List Write))
    (values : Dict Value) : Prop :=
  ∀ name, g.producer? name = some i → values.get? name = produced verdict name

/-- Whether the names that a stage owns have no values. -/
def Graph.Spares (g : Graph) (i : Nat) (values : Dict Value) : Prop :=
  ∀ name, g.producer? name = some i → values.get? name = none

/-- What comes out of a graph: the values, and how each stage ends. -/
structure Graph.IsSolution (g : Graph) (id : String) (crew : Crew) (seed values : Dict Value)
    (fate : Nat → Fate) : Prop where
  unowned : ∀ name, g.producer? name = none → values.get? name = seed.get? name
  blocked : ∀ i < g.size, ∀ p ∈ g.predecessors i, fate p ≠ .done →
    fate i = .skipped ∧ g.Spares i values
  free : ∀ i spec, g.stages[i]? = some spec → (∀ p ∈ g.predecessors i, fate p = .done) →
    fate i = .ofVerdict (verdict id crew i spec values) ∧
      g.Leaves i (verdict id crew i spec values) values

namespace Graph

variable {g : Graph} {id : String} {crew : Crew} {i j : Nat} {spec : StageSpec}

/-! ### One solution -/

/-- What a stage makes of values depends on the names that it reads. -/
theorem verdict_congr {a b : Dict Value} (same : ∀ slot ∈ spec.inputs.slots,
    a.get? (spec.inputName slot.name) = b.get? (spec.inputName slot.name)) :
    verdict id crew i spec a = verdict id crew i spec b := by
  rw [verdict, StageSpec.bindInputs_congr same, verdict]

/-- The equations of a graph have one solution. -/
theorem IsSolution.unique (plain : g.IsPlain) {seed a b : Dict Value} {fate fate' : Nat → Fate}
    (first : g.IsSolution id crew seed a fate) (second : g.IsSolution id crew seed b fate') :
    a = b ∧ ∀ i < g.size, fate i = fate' i := by
  -- By induction on what stages wait for: their names and how they end are settled by then.
  have stages : ∀ i < g.size, fate i = fate' i ∧
      ∀ name, g.producer? name = some i → a.get? name = b.get? name := by
    refine plain.sound.induction (fun i lt before => ?_)
    have place : g.stages[i]? = some g.stages[i] := List.getElem?_eq_getElem lt
    by_cases clear : ∀ p ∈ g.predecessors i, fate p = .done
    -- What it reads is given by the seed or produced by stages that it waits for.
    · have reads : ∀ slot ∈ g.stages[i].inputs.slots,
          a.get? (g.stages[i].inputName slot.name) = b.get? (g.stages[i].inputName slot.name) := by
        intro slot member
        cases producer : g.producer? (g.stages[i].inputName slot.name) with
        | none => rw [first.unowned _ producer, second.unowned _ producer]
        | some p =>
          have edge := plain.reads i _ place slot member p producer
          exact (before p edge).2 _ producer
      have clear' : ∀ p ∈ g.predecessors i, fate' p = .done :=
        fun p edge => (before p edge).1 ▸ clear p edge
      obtain ⟨ends, leaves⟩ := first.free i _ place clear
      obtain ⟨ends', leaves'⟩ := second.free i _ place clear'
      rw [verdict_congr reads] at ends leaves
      refine ⟨ends.trans ends'.symm, fun name owned => ?_⟩
      rw [leaves name owned, leaves' name owned]
    · obtain ⟨p, edge, undone⟩ : ∃ p ∈ g.predecessors i, fate p ≠ .done := by simpa using clear
      obtain ⟨ends, spares⟩ := first.blocked i lt p edge undone
      obtain ⟨ends', spares'⟩ := second.blocked i lt p edge ((before p edge).1 ▸ undone)
      refine ⟨ends.trans ends'.symm, fun name owned => ?_⟩
      rw [spares name owned, spares' name owned]
  refine ⟨Dict.ext_get? (fun name => ?_), fun i lt => (stages i lt).1⟩
  cases producer : g.producer? name with
  | none => rw [first.unowned name producer, second.unowned name producer]
  | some i => exact (stages i (plain.inside name i producer)).2 name producer

/-! ### Storing what a stage delivers -/

/-- Storing changes the names that a stage owns, to what it delivers, and no others. -/
theorem IsPlain.stored (plain : g.IsPlain) (place : g.stages[i]? = some spec) {c : Context}
    {result : Except StageError Workspace}
    (own : ∀ w, result = .ok w → w.spec = spec ∧ w.IsDeclared) (spared : g.Spares i c.values) :
    (∀ name, g.producer? name ≠ some i →
      (Execution.stored c result).2.values.get? name = c.values.get? name) ∧
    (∀ error, (Execution.stored c result).1 = .error error ↔ delivered result = .error error) ∧
    g.Leaves i (delivered result) (Execution.stored c result).2.values := by
  cases result with
  | error error =>
    refine ⟨fun _ _ => rfl, fun error' => ?_, spared⟩
    simp [Execution.stored, delivered]
  | ok w =>
    obtain ⟨same, declared⟩ := own w rfl
    cases delivery : w.delivery with
    | error error =>
      have kept : Execution.stored c (.ok w) = (.error error, c) := by
        simp only [Execution.stored, delivery]
      rw [kept, show delivered (.ok w) = .error error from delivery]
      exact ⟨fun _ _ => rfl, fun _ => by simp, spared⟩
    | ok writes =>
      obtain ⟨each, distinct⟩ := Workspace.delivery_plain
        (same ▸ plain.plain spec (List.mem_of_getElem? place))
        (same ▸ plain.distinct i spec place) declared delivery
      have owned : ∀ x ∈ writes, g.producer? x.name = some i := fun x member =>
        plain.owner i spec place x.name (same ▸ (each x member).2)
      have external : ∀ x ∈ writes, x.internal = false := fun x member => (each x member).1
      -- The names are its own and still unused, so nothing stands in the way of storing.
      have free : c.conflict? writes = none :=
        Context.conflict?_eq_none.mpr (fun x member _ => spared x.name (owned x member))
      have found := Context.get?_storeAll (c := c)
        (fun x member internal => absurd internal (by simp [external x member])) distinct
      have commit : Execution.stored c (.ok w) = (.ok (c.storeAll writes).1, (c.storeAll writes).2) := by
        simp only [Execution.stored, delivery, Context.commit, free]
      rw [commit, show delivered (.ok w) = .ok writes from delivery]
      refine ⟨fun name other => ?_, fun error => by simp, fun name mine => ?_⟩
      · -- No write goes under the name, since all of them go under names that the stage owns.
        rw [found, Entries.find?_eq_none.mpr]
        · rfl
        · intro entry member eq
          obtain ⟨x, inside, rfl⟩ := List.mem_map.mp member
          exact other (eq ▸ owned x inside)
      · rw [found, spared name mine, Option.or_none]
        rfl

/-- A stage that does not wait for another one does not see what that one stores. -/
theorem IsPlain.reads_apart (plain : g.IsPlain) (place : g.stages[j]? = some spec)
    (apart : i ∉ g.predecessors j) {a b : Dict Value}
    (same : ∀ name, g.producer? name ≠ some i → b.get? name = a.get? name) :
    ∀ slot ∈ spec.inputs.slots,
      b.get? (spec.inputName slot.name) = a.get? (spec.inputName slot.name) :=
  fun slot member => same _ (fun producer => apart (plain.reads j spec place slot member i producer))

theorem Leaves.of_ne {v : Except StageError (List Write)} {a b : Dict Value}
    (leaves : g.Leaves j v a) (ne : j ≠ i)
    (same : ∀ name, g.producer? name ≠ some i → b.get? name = a.get? name) : g.Leaves j v b := by
  intro name mine
  rw [same name (fun other => ne (Option.some.inj (mine.symm.trans other)))]
  exact leaves name mine

theorem Spares.of_ne {a b : Dict Value} (spares : g.Spares j a) (ne : j ≠ i)
    (same : ∀ name, g.producer? name ≠ some i → b.get? name = a.get? name) : g.Spares j b := by
  intro name mine
  rw [same name (fun other => ne (Option.some.inj (mine.symm.trans other)))]
  exact spares name mine

theorem IsPlain.spares_seed (plain : g.IsPlain) {seed : Dict Value}
    (attributes : ∀ name, seed.contains name = true → g.attributes.contains name = true) (i : Nat) :
    g.Spares i seed := by
  intro name mine
  cases found : seed.get? name with
  | none => rfl
  | some v =>
    have named := attributes name (by rw [Dict.contains, found]; rfl)
    rw [plain.notAttribute name i mine] at named
    cases named

end Graph

end Printworks
