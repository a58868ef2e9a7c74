import Printworks.Proofs.Contract.Typing

/-!
# What requests bind

A request that is bound without violation gives values to declared names only. Each of them is coerced
from what the request has, and is then not null, or it is a default. Every slot that is required or
has a default has a value.
-/

namespace Printworks

namespace Contract

variable {c : Contract} {raw : Dict Json} {policy : ExtraParameters} {name : String}

/-- What is taken over of a request for a slot: a value, or none if it is malformed. -/
def taken? (raw : Dict Json) (slot : Slot) : Option (Option Value) :=
  (requested? raw slot).map Except.toOption

theorem get?_suppliedBy (distinct : c.Distinct) {value : Option Value} :
    (c.suppliedBy raw).get? name = some value ↔
      ∃ slot ∈ c.slots, slot.name = name ∧ taken? raw slot = some value := by
  -- Slots have different names, so no entry is written over.
  have entries : c.suppliedBy raw =
      (c.slots.filterMap (fun slot => (taken? raw slot).map (slot.name, ·))).foldl
        (fun d e => d.insert e.1 e.2) ∅ := by
    rw [suppliedBy, List.foldl_filterMap]
    congr 1
    funext supplied slot
    rw [taken?]
    cases requested? raw slot with
    | none => rfl
    | some read =>
      cases read with
      | ok v => rfl
      | error violation => rfl
  have nodup : ((c.slots.filterMap (fun slot =>
      (taken? raw slot).map (slot.name, ·))).map (·.1)).Nodup := by
    rw [List.map_filterMap, List.Nodup, List.pairwise_filterMap]
    apply (List.pairwise_map.mp distinct).imp
    intro a b ne key first other second
    obtain ⟨e, found, rfl⟩ := Option.map_eq_some_iff.mp first
    obtain ⟨e', found', rfl⟩ := Option.map_eq_some_iff.mp second
    obtain ⟨_, -, rfl⟩ := Option.map_eq_some_iff.mp found
    obtain ⟨_, -, rfl⟩ := Option.map_eq_some_iff.mp found'
    exact ne
  have found := Dict.get?_foldl_insert _ (∅ : Supplied) name nodup
  rw [Dict.get?_empty, Option.or_none] at found
  rw [entries, found, Entries.find?_eq_some_iff nodup, List.mem_filterMap]
  constructor
  · rintro ⟨slot, member, same⟩
    obtain ⟨value, taken, eq⟩ := Option.map_eq_some_iff.mp same
    cases eq
    exact ⟨slot, member, rfl, taken⟩
  · rintro ⟨slot, member, rfl, taken⟩
    exact ⟨slot, member, by rw [taken]; rfl⟩

theorem get?_suppliedBy_eq (distinct : c.Distinct) :
    (c.suppliedBy raw).get? name = (c.get? name).bind (taken? raw) := by
  apply Option.ext
  intro value
  rw [get?_suppliedBy distinct, Option.bind_eq_some_iff]
  constructor
  · rintro ⟨slot, declared, rfl, taken⟩
    exact ⟨slot, get?_of_mem distinct declared, taken⟩
  · rintro ⟨slot, found, taken⟩
    exact ⟨slot, List.mem_of_find?_eq_some found, by simpa using List.find?_some found, taken⟩

/-- What is taken over of a value that is there is what it is coerced to. -/
theorem taken?_eq_value {slot : Slot} {v : Value} (taken : taken? raw slot = some (some v)) :
    ∃ j, raw.get? slot.name = some j ∧ j ≠ .null ∧ Value.coerce? j slot.type = some v := by
  unfold taken? requested? at taken
  split at taken
  next => cases taken
  next => cases taken
  next j some_ found =>
    refine ⟨j, found, some_, ?_⟩
    unfold Value.coerce at taken
    split at taken
    next coerced =>
      cases taken
      exact coerced
    next => cases taken

/-- What is malformed is a mismatch. -/
theorem mismatches_ne_nil_of_taken? {slot : Slot} (member : slot ∈ c.slots)
    (taken : taken? raw slot = some none) : c.mismatches raw ≠ [] := by
  unfold taken? at taken
  obtain ⟨read, requested, eq⟩ := Option.map_eq_some_iff.mp taken
  cases read with
  | ok v => cases eq
  | error violation =>
    have reported : violation ∈ c.mismatches raw :=
      List.mem_filterMap.mpr ⟨slot, member, by rw [requested]⟩
    exact List.ne_nil_of_mem reported

theorem isValid_bind (valid : (c.bind raw policy).isValid = true) :
    c.mismatches raw = [] ∧ c.missingRequired (c.suppliedBy raw) = [] := by
  cases policy with
  | reject =>
    simp only [bind, resolve, Binding.isValid, List.isEmpty_iff, List.append_eq_nil_iff] at valid
    exact ⟨valid.1.1, valid.2.1.1⟩
  | warn =>
    simp only [bind, resolve, Binding.isValid, List.isEmpty_iff, List.append_eq_nil_iff] at valid
    exact ⟨valid.1, valid.2.1.1⟩

theorem values_bind : (c.bind raw policy).values = c.boundValues (c.suppliedBy raw) := by
  cases policy <;> rfl

/-- A value that a request binds is coerced from what the request has, or it is a default. -/
theorem get?_bind (distinct : c.Distinct) {v : Value}
    (found : (c.bind raw policy).values.get? name = some v) : ∃ slot ∈ c.slots, slot.name = name ∧
      ((∃ j, raw.get? name = some j ∧ j ≠ .null ∧ Value.coerce? j slot.type = some v) ∨
        slot.default? = some v) := by
  rw [values_bind, get?_boundValues] at found
  cases supplied : (c.suppliedBy raw).get? name with
  | some value =>
    obtain ⟨slot, member, rfl, taken⟩ := (get?_suppliedBy distinct).mp supplied
    rw [supplied] at found
    simp only at found
    rw [found] at taken
    exact ⟨slot, member, rfl, .inl (taken?_eq_value taken)⟩
  | none =>
    rw [supplied] at found
    obtain ⟨slot, member, default⟩ := List.exists_of_findSome?_eq_some found
    split at default
    next same => exact ⟨slot, List.mem_reverse.mp member, same, .inr default⟩
    next => cases default

/-- A slot that is required or has a default is bound to some value. -/
theorem exists_get?_bind (distinct : c.Distinct) (valid : (c.bind raw policy).isValid = true)
    {slot : Slot} (member : slot ∈ c.slots) (assured : slot.isAssured = true) :
    ∃ v, (c.bind raw policy).values.get? slot.name = some v := by
  obtain ⟨noMismatch, noneMissing⟩ := isValid_bind valid
  rw [values_bind, get?_boundValues]
  cases supplied : (c.suppliedBy raw).get? slot.name with
  | some value =>
    cases value with
    | some v => exact ⟨v, rfl⟩
    | none =>
      obtain ⟨other, there, -, taken⟩ := (get?_suppliedBy distinct).mp supplied
      exact absurd noMismatch (mismatches_ne_nil_of_taken? there taken)
  | none =>
    rcases Bool.or_eq_true_iff.mp assured with required | default
    · have missing : .missingRequired slot.name ∈ c.missingRequired (c.suppliedBy raw) := by
        apply mem_missingRequired.mpr
        refine ⟨slot, member, required, ?_, rfl⟩
        rw [Dict.contains, supplied]
        rfl
      rw [noneMissing] at missing
      cases missing
    · obtain ⟨v, default⟩ := Option.isSome_iff_exists.mp default
      refine ⟨v, ?_⟩
      simp only
      rw [fallback?_of_mem distinct member, default]

/-- What a request binds fits the slot of its name. -/
theorem IsTyped.fits_bind (typed : c.IsTyped) : c.Fits (c.bind raw policy).values := by
  intro name v found
  obtain ⟨slot, member, rfl, source⟩ := get?_bind typed.distinct found
  refine ⟨slot, get?_of_mem typed.distinct member, ?_⟩
  rcases source with ⟨j, -, -, coerced⟩ | default
  · exact Value.satisfies_of_coerce? coerced
  · exact typed.fits slot member v default

end Contract

end Printworks
