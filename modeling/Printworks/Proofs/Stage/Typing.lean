import Printworks.Proofs.Contract.Requests
import Printworks.Proofs.Stage.Delivery

/-!
# Types of what a stage ends with

An output is refused if it does not fit its slot, so that what a stage has set fits at any time. When
the stage has succeeded its defaults join, which fit too if the contract of its outputs is well typed.
Every output that is required by itself or has a default is there then, but it may be null.
-/

namespace Printworks

/-- Whatever a stage sets, its outputs fit their slots. -/
theorem Conduct.play_fits {c : Conduct} {w w' : Workspace} (fits : w.spec.outputs.Fits w.outputs)
    (h : c.play w = .ok w') : w'.spec = w.spec ∧ w.spec.outputs.Fits w'.outputs := by
  refine play_induction (P := fun w' => w'.spec = w.spec ∧ w.spec.outputs.Fits w'.outputs) ?_
    ⟨rfl, fits⟩ h
  rintro w' slot value declared ⟨same, fits⟩ found type
  rw [same] at found
  exact ⟨same, fits.insert found type⟩

namespace Workspace

variable {c : Contract} {slots : List Slot} {outputs all : Dict Value}

/-- Defaults that fit may join. -/
theorem completed_fits (typed : c.IsTyped) (within : ∀ slot ∈ slots, slot ∈ c.slots)
    (fits : c.Fits outputs) (h : completed slots outputs = .ok all) : c.Fits all := by
  induction slots generalizing outputs with
  | nil =>
    cases h
    exact fits
  | cons slot rest ih =>
    have member : slot ∈ c.slots := within slot List.mem_cons_self
    have others : ∀ s ∈ rest, s ∈ c.slots := fun s there => within s (List.mem_cons_of_mem _ there)
    rcases completed_cons_cases h with ⟨-, kept⟩ | ⟨value, default, grown⟩
    · exact ih others fits kept
    · apply ih others _ grown
      apply fits.insert
      · exact Contract.get?_of_mem typed.distinct member
      · exact typed.fits slot member value default

/-- Nothing that has been set is lost. -/
theorem completed_mono (h : completed slots outputs = .ok all) {key : String}
    (there : outputs.contains key = true) : all.contains key = true := by
  induction slots generalizing outputs with
  | nil =>
    cases h
    exact there
  | cons slot rest ih =>
    rcases completed_cons_cases h with ⟨-, kept⟩ | ⟨value, -, grown⟩
    · exact ih kept there
    · apply ih grown
      rw [Dict.contains, Dict.get?_insert]
      split
      next => rfl
      next => exact there

/-- In the end each slot that is required by itself or has a default has a value. -/
theorem contains_of_isAssured (h : completed slots outputs = .ok all) {slot : Slot}
    (member : slot ∈ slots) (assured : slot.isAssured = true) : all.contains slot.name = true := by
  induction slots generalizing outputs with
  | nil => cases member
  | cons first rest ih =>
    rcases completed_cons_cases h with ⟨left, kept⟩ | ⟨value, -, grown⟩
    · rcases List.mem_cons.mp member with rfl | later
      · rcases left with set | optional
        · exact completed_mono kept set
        · rw [assured] at optional
          cases optional
      · exact ih kept later
    · rcases List.mem_cons.mp member with rfl | later
      · apply completed_mono grown
        rw [Dict.contains, Dict.get?_insert_self]
        rfl
      · exact ih grown later

end Workspace

end Printworks
