import Printworks.Proofs.Contract.Presence
import Printworks.Proofs.Stage.Encoding

/-!
# Types of values that fit

What fits a type fits whatever that type fits, unless it is `any`, which fits everything and so tells
nothing. A contract is well typed if its names are distinct and its defaults fit their slots; what it
binds of a request fits then too.
-/

namespace Printworks

namespace ValueType

theorem satisfies_iff {produced expected : ValueType} : produced.satisfies expected = true ↔
    expected = .any ∨ produced = .any ∨ produced = expected ∨
      produced = .integer ∧ expected = .number := by
  cases produced <;> cases expected <;> simp [satisfies]

/-- What fits a type that is not `any` fits what that type fits. -/
theorem satisfies_trans {a b c : ValueType} (first : a.satisfies b = true)
    (second : b.satisfies c = true) (concrete : b ≠ .any) : a.satisfies c = true := by
  rw [satisfies_iff] at first second ⊢
  rcases second with any | any | rfl | ⟨rfl, rfl⟩
  · exact .inl any
  · exact absurd any concrete
  · exact first
  -- Only integers fit integers.
  · rcases first with any | any | rfl | ⟨-, other⟩
    · exact absurd any concrete
    · exact .inr (.inl any)
    · exact .inr (.inr (.inr ⟨rfl, rfl⟩))
    · cases other

end ValueType

/-! ### Coercion -/

namespace Value

theorem check_eq_error {slot : String} {v : Value} {expected : ValueType} {violation : Violation} :
    check slot v expected = .error violation ↔
      v.type.satisfies expected = false ∧
        violation = .typeMismatch slot expected v.type.name := by
  unfold check
  cases fits : v.type.satisfies expected with
  | true => simp
  | false => simp [eq_comm (a := violation)]

/-- What is coerced to a type other than `any` is of that very type. -/
theorem type_eq_of_coerce? {j : Json} {t : ValueType} {v : Value} (coerced : coerce? j t = some v)
    (concrete : t ≠ .any) : v.type = t := by
  cases t with
  | any => exact absurd rfl concrete
  | bool =>
    simp only [coerce?, coerceBool?] at coerced
    split at coerced
    next => cases coerced; rfl
    next =>
      split at coerced
      next => cases coerced; rfl
      next => cases coerced; rfl
      next => cases coerced
    next => cases coerced
  | integer =>
    simp only [coerce?, coerceInteger?] at coerced
    split at coerced
    next =>
      obtain ⟨_, -, rfl⟩ := Option.map_eq_some_iff.mp coerced
      rfl
    next =>
      obtain ⟨_, -, rfl⟩ := Option.map_eq_some_iff.mp coerced
      rfl
    next => cases coerced
  | number =>
    simp only [coerce?, coerceNumber?] at coerced
    split at coerced
    next =>
      obtain ⟨_, -, rfl⟩ := Option.map_eq_some_iff.mp coerced
      rfl
    next =>
      obtain ⟨_, -, rfl⟩ := Option.map_eq_some_iff.mp coerced
      rfl
  | string =>
    simp only [coerce?, coerceString?] at coerced
    split at coerced
    next => cases coerced; rfl
    next => cases coerced; rfl
    next => cases coerced; rfl
    next => cases coerced
  | list =>
    simp only [coerce?] at coerced
    split at coerced
    next => cases coerced; rfl
    next => cases coerced
  | map =>
    simp only [coerce?] at coerced
    split at coerced
    next => cases coerced; rfl
    next => cases coerced
  | artifact =>
    simp only [coerce?, coerceArtifact?] at coerced
    split at coerced
    next => cases coerced; rfl
    next =>
      obtain ⟨_, -, rfl⟩ := Option.map_eq_some_iff.mp coerced
      rfl
    next => cases coerced

theorem satisfies_of_coerce? {j : Json} {t : ValueType} {v : Value}
    (coerced : coerce? j t = some v) : v.type.satisfies t = true := by
  rw [ValueType.satisfies_iff]
  by_cases any : t = .any
  · exact .inl any
  · exact .inr (.inr (.inl (type_eq_of_coerce? coerced any)))

/-- Only null is taken for null. -/
theorem isNull_ofJson {j : Json} (some_ : j ≠ .null) : (ofJson j).isNull = false := by
  cases j with
  | null => exact absurd rfl some_
  | number n =>
    cases n with
    | int i =>
      simp only [ofJson, ofNumber]
      split <;> rfl
    | double x => rfl
  | _ => rfl

theorem isNull_of_coerce? {j : Json} {t : ValueType} {v : Value} (coerced : coerce? j t = some v)
    (some_ : j ≠ .null) : v.isNull = false := by
  by_cases any : t = .any
  · rw [any] at coerced
    cases coerced
    exact isNull_ofJson some_
  · have type := type_eq_of_coerce? coerced any
    cases v with
    | null => exact absurd type.symm any
    | _ => rfl

end Value

namespace Contract

variable {c : Contract}

/-! ### Mismatches -/

/-- A mismatch is reported for each value that does not fit the slot of its name. -/
theorem typeMismatch_mem {values : Dict Value} {name found : String} {expected : ValueType} :
    .typeMismatch name expected found ∈ (c.bindValues values).violations ↔
      ∃ v slot, values.get? name = some v ∧ v.isNull = false ∧ c.get? name = some slot ∧
        v.type.satisfies slot.type = false ∧ expected = slot.type ∧ found = v.type.name := by
  have all : (c.bindValues values).violations =
      (values.filter (fun _ v => !v.isNull)).toList.filterMap
        (fun e => c.typedViolation? e.1 e.2) ++
      (c.missingRequired (c.typedSupply values) ++ c.missingRequiredBy (c.typedSupply values) ++
        c.groupViolations (c.typedSupply values)) := rfl
  -- The rules of presence report no mismatch.
  have presence : .typeMismatch name expected found ∉ c.missingRequired (c.typedSupply values) ++
      c.missingRequiredBy (c.typedSupply values) ++ c.groupViolations (c.typedSupply values) := by
    rw [List.mem_append, List.mem_append, mem_missingRequired, mem_missingRequiredBy,
      mem_groupViolations]
    simp [groupViolation?_eq_some]
  rw [all, List.mem_append, or_iff_left presence, List.mem_filterMap]
  constructor
  · rintro ⟨⟨key, v⟩, member, violation⟩
    have there := Dict.mem_toList.mp member
    rw [Dict.get?_filter] at there
    obtain ⟨value, some_⟩ := Option.filter_eq_some_iff.mp there
    unfold typedViolation? at violation
    split at violation
    next => cases violation
    next slot declared =>
      split at violation
      next => cases violation
      next error checked =>
        obtain ⟨other, rfl⟩ := Value.check_eq_error.mp checked
        cases violation
        exact ⟨v, slot, value, by simpa using some_, declared, other, rfl, rfl⟩
  · rintro ⟨v, slot, value, some_, declared, other, rfl, rfl⟩
    refine ⟨(name, v), ?_, ?_⟩
    · rw [Dict.mem_toList, Dict.get?_filter, value]
      simp [some_]
    · have checked : Value.check name v slot.type =
          .error (.typeMismatch name slot.type v.type.name) :=
        Value.check_eq_error.mpr ⟨other, rfl⟩
      simp only [typedViolation?, declared, checked]

end Contract

/-! ### Well-typed contracts -/

/-- Whether some values are of declared names and fit their slots. -/
def Contract.Fits (c : Contract) (values : Dict Value) : Prop :=
  ∀ name v, values.get? name = some v →
    ∃ slot, c.get? name = some slot ∧ v.type.satisfies slot.type = true

/-- Whether a contract declares each name once and its defaults fit their slots. -/
structure Contract.IsTyped (c : Contract) : Prop where
  distinct : c.Distinct
  fits : ∀ slot ∈ c.slots, ∀ v, slot.default? = some v → v.type.satisfies slot.type = true

structure StageSpec.IsTyped (s : StageSpec) : Prop where
  inputs : s.inputs.IsTyped
  outputs : s.outputs.IsTyped

namespace Contract

variable {c c' : Contract}

theorem fits_empty (c : Contract) : c.Fits ∅ := by
  intro name v found
  rw [Dict.get?_empty] at found
  cases found

theorem Fits.insert {values : Dict Value} (fits : c.Fits values) {slot : Slot} {v : Value}
    {name : String} (declared : c.get? name = some slot)
    (type : v.type.satisfies slot.type = true) : c.Fits (values.insert name v) := by
  intro key w found
  rw [Dict.get?_insert] at found
  split at found
  next same =>
    cases found
    exact ⟨slot, same ▸ declared, type⟩
  next => exact fits key w found

/-! ### Documents of well-typed contracts -/

theorem names_eq_of_encode (same : c.encode = c'.encode) : c.names = c'.names := by
  have bare := mapDefaults_eq_of_encode (respects_const .null c.defaults) same
  have names := congrArg Contract.names bare
  rwa [mapDefaults_names, mapDefaults_names] at names

theorem type_get?_of_encode (same : c.encode = c'.encode) (name : String) :
    (c.get? name).map (·.type) = (c'.get? name).map (·.type) := by
  have bare := mapDefaults_eq_of_encode (respects_const .null c.defaults) same
  have found := congrArg (fun c => (c.get? name).map (·.type)) bare
  simp only [mapDefaults_get?, Option.map_map, Function.comp_def, Slot.mapDefault_type] at found
  exact found

/-- Types are part of documents. -/
theorem Fits.of_encode {values : Dict Value} (fits : c.Fits values) (same : c.encode = c'.encode) :
    c'.Fits values := by
  intro name v found
  obtain ⟨slot, known, type⟩ := fits name v found
  have types := type_get?_of_encode same name
  rw [known, Option.map_some] at types
  obtain ⟨slot', known', eq⟩ := Option.map_eq_some_iff.mp types.symm
  exact ⟨slot', known', by rwa [eq]⟩

/-- A slot of a contract stands in any contract with the same document, up to its default. -/
theorem exists_slot_of_encode (same : c.encode = c'.encode) {slot : Slot} (member : slot ∈ c'.slots) :
    ∃ slot' ∈ c.slots, slot'.encode = slot.encode := by
  simp only [encode, Json.array.injEq] at same
  have there : slot.encode ∈ c'.slots.map Slot.encode := List.mem_map_of_mem member
  rw [← same] at there
  exact List.mem_map.mp there

/-- Whether slots come to have values is part of documents, too. -/
theorem isAssured_of_encode (assured : ∀ slot ∈ c.slots, slot.isAssured = true)
    (same : c.encode = c'.encode) : ∀ slot ∈ c'.slots, slot.isAssured = true := by
  intro slot member
  obtain ⟨slot', member', documents⟩ := exists_slot_of_encode same member
  obtain ⟨-, -, kinds, -, oneOf⟩ := Slot.encode_parts documents
  have has := assured slot' member'
  rw [Slot.isAssured, Slot.isRequired, Slot.default?] at has ⊢
  rw [← oneOf]
  rcases SlotKind.encode_cases kinds with kind | ⟨v, v', -, kind, -⟩
  · rwa [← kind]
  · simp [kind]

/-- The document of a contract tells whether it is well typed. -/
theorem IsTyped.of_encode (typed : c.IsTyped) (same : c.encode = c'.encode) : c'.IsTyped := by
  constructor
  · have distinct := typed.distinct
    rwa [Distinct, names_eq_of_encode same] at distinct
  · intro slot member v default
    obtain ⟨slot', member', documents⟩ := exists_slot_of_encode same member
    obtain ⟨-, type, kinds, -, -⟩ := Slot.encode_parts documents
    have kind : slot.kind = .hasDefault v := by
      unfold Slot.default? at default
      split at default
      next kind =>
        cases default
        exact kind
      next => cases default
    rw [kind] at kinds
    rw [← type]
    rcases SlotKind.encode_cases kinds with same | ⟨w, v', kind', eq, values⟩
    · exact typed.fits slot' member' v (by rw [Slot.default?, same])
    · cases eq
      rw [← Value.type_eq_of_encode values]
      exact typed.fits slot' member' w (by rw [Slot.default?, kind'])

end Contract

namespace StageSpec

variable {s s' : StageSpec}

theorem encode_contracts (same : s.encode = s'.encode) :
    s.inputs.encode = s'.inputs.encode ∧ s.outputs.encode = s'.outputs.encode := by
  simp only [encode, Json.object.injEq, List.cons.injEq, Prod.mk.injEq, true_and] at same
  exact ⟨same.2.1, same.2.2.1⟩

theorem IsTyped.of_encode (typed : s.IsTyped) (same : s.encode = s'.encode) : s'.IsTyped := by
  obtain ⟨reads, writes⟩ := encode_contracts same
  constructor
  · exact typed.inputs.of_encode reads
  · exact typed.outputs.of_encode writes

end StageSpec

end Printworks
