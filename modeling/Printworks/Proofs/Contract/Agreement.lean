import Printworks.Proofs.Contract.Violations

/-!
# Two ways of binding

A request is bound from documents, and values that have their types already are bound as they are. Both
ways end alike: a request of declared names that can all be read is bound just as the values that it is
read as. Nulls are absent either way, with one exception: a name that is not declared is noted even if it
has been given as null.
-/

namespace Printworks

namespace Contract

variable {c : Contract} {raw : Dict Json} {policy : ExtraParameters} {name : String}

/-! ### Requests without nulls -/

section

variable {keep : String → Json → Bool}

/-- A slot finds nothing where there is null, so that it does not matter which nulls are kept. -/
theorem requested?_filter (nulls : ∀ key j, keep key j = false → j = .null) (slot : Slot) :
    requested? (raw.filter keep) slot = requested? raw slot := by
  rw [requested?, requested?, Dict.get?_filter]
  cases given : raw.get? slot.name with
  | none => rfl
  | some j =>
    cases kept : keep slot.name j with
    | true => rw [Option.filter_some, if_pos kept]
    | false =>
      have null : j = .null := nulls slot.name j kept
      subst null
      rw [Option.filter_some, kept]
      rfl

theorem suppliedBy_filter (nulls : ∀ key j, keep key j = false → j = .null) :
    c.suppliedBy (raw.filter keep) = c.suppliedBy raw := by
  simp only [suppliedBy, requested?_filter nulls]

theorem mismatches_filter (nulls : ∀ key j, keep key j = false → j = .null) :
    c.mismatches (raw.filter keep) = c.mismatches raw := by
  simp only [mismatches, requested?_filter nulls]

theorem undeclared_filter (c : Contract) (raw : Dict Json) (keep : String → Json → Bool) :
    c.undeclared (raw.filter keep) =
      (c.undeclared raw).filter (fun key => (raw.get? key).any (keep key)) := by
  rw [undeclared, undeclared, Dict.keys_filter, List.filter_filter, List.filter_filter]
  exact List.filter_congr (fun key _ => Bool.and_comm _ _)

/-- Each name that is not declared makes for one violation or one warning. -/
theorem length_bind (c : Contract) (raw : Dict Json) (policy : ExtraParameters) :
    (c.bind raw policy).violations.length + (c.bind raw policy).warnings.length =
      (c.mismatches raw).length + (c.undeclared raw).length +
        (c.resolve (c.suppliedBy raw)).2.length := by
  cases policy with
  | reject =>
    simp only [bind, List.length_append, List.length_map, List.length_nil]
    rfl
  | warn =>
    simp only [bind, List.length_append, List.length_map]
    omega

/-- Leaving nulls out makes a difference exactly if a name goes with them that is not declared. -/
theorem bind_filter_eq_iff (nulls : ∀ key j, keep key j = false → j = .null) :
    c.bind (raw.filter keep) policy = c.bind raw policy ↔
      ∀ key j, raw.get? key = some j → keep key j = false → key ∈ c.names := by
  have kept : (∀ key j, raw.get? key = some j → keep key j = false → key ∈ c.names) ↔
      c.undeclared (raw.filter keep) = c.undeclared raw := by
    rw [undeclared_filter, List.filter_eq_self]
    constructor
    · intro declared key unknown
      obtain ⟨there, other⟩ := mem_undeclared.mp unknown
      obtain ⟨j, given⟩ := Option.isSome_iff_exists.mp there
      rw [given, Option.any_some]
      by_contra dropped
      exact other (declared key j given (by simpa using dropped))
    · intro all key j given dropped
      by_contra other
      have there : raw.contains key = true := by
        rw [Dict.contains, given]
        rfl
      have stays := all key (mem_undeclared.mpr ⟨there, other⟩)
      rw [given, Option.any_some, dropped] at stays
      cases stays
  rw [kept]
  constructor
  · intro same
    -- Equal results note equally many names, and those of the smaller request are among the others.
    have lengths := length_bind c (raw.filter keep) policy
    rw [same, length_bind, mismatches_filter nulls, suppliedBy_filter nulls] at lengths
    have sublist : (c.undeclared (raw.filter keep)).Sublist (c.undeclared raw) := by
      rw [undeclared_filter]
      exact List.filter_sublist
    apply sublist.eq_of_length
    omega
  · intro same
    simp only [bind, same, mismatches_filter nulls, suppliedBy_filter nulls]

end

/-- What a request has that is not null. -/
def withoutNulls (raw : Dict Json) : Dict Json := raw.filter (fun _ j => !j.isNull)

theorem eq_null_of_dropped {j : Json} (dropped : (!j.isNull) = false) : j = .null := by
  cases j with
  | null => rfl
  | _ => cases dropped

/-- A request is bound like the one without its nulls exactly if the nulls are all given for declared
names. Nulls of declared names may be left out in any case, and the others make no difference but to
what is noted of names that are not declared. Among values that have their types already no null makes
a difference. -/
theorem bind_withoutNulls (c : Contract) (raw : Dict Json) (policy : ExtraParameters) :
    (c.bind (withoutNulls raw) policy = c.bind raw policy ↔
      ∀ key, raw.get? key = some .null → key ∈ c.names) ∧
    c.bind (raw.filter (fun key j => !(j.isNull && c.contains key))) policy = c.bind raw policy ∧
    (c.bind (withoutNulls raw) policy).values = (c.bind raw policy).values ∧
    (c.bind (withoutNulls raw) policy).violations.filter (fun violation => !violation.isUnexpected) =
      (c.bind raw policy).violations.filter (fun violation => !violation.isUnexpected) ∧
    ∀ values, c.bindValues (values.filter (fun _ v => !v.isNull)) = c.bindValues values := by
  have nulls (key : String) (j : Json) : (!j.isNull) = false → j = .null := eq_null_of_dropped
  refine ⟨?_, ?_, ?_, ?_, ?_⟩
  · rw [withoutNulls, bind_filter_eq_iff nulls]
    constructor
    · intro declared key given
      exact declared key .null given rfl
    · intro declared key j given dropped
      rw [eq_null_of_dropped dropped] at given
      exact declared key given
  · apply (bind_filter_eq_iff ?_).mpr
    · intro key j _ dropped
      have both : j.isNull = true ∧ c.contains key = true := by simpa using dropped
      exact contains_iff.mp both.2
    · intro key j dropped
      have both : j.isNull = true ∧ c.contains key = true := by simpa using dropped
      exact eq_null_of_dropped (by rw [both.1]; rfl)
  · rw [values_bind, values_bind, withoutNulls, suppliedBy_filter nulls]
  · have others (raw : Dict Json) : (c.bind raw policy).violations.filter
        (fun violation => !violation.isUnexpected) = (c.bind raw .warn).violations := by
      cases policy with
      | reject => exact violations_bind_warn.symm
      | warn => rw [violations_bind_warn, List.filter_filter]; simp only [Bool.and_self]
    rw [others, others]
    change c.mismatches (raw.filter _) ++ (c.resolve (c.suppliedBy (raw.filter _))).2 = _
    rw [mismatches_filter nulls, suppliedBy_filter nulls]
    rfl
  · intro values
    have once : (values.filter (fun _ v => !v.isNull)).filter (fun _ v => !v.isNull) =
        values.filter (fun _ v => !v.isNull) := by
      apply Dict.ext
      simp only [Dict.filter, List.filter_filter, Bool.and_self]
    rw [bindValues, once, bindValues]

/-- A null of a name that is not declared is a violation, although nothing has been given. -/
theorem undeclared_null_reported :
    let c : Contract := .ofSlots []
    let raw : Dict Json := .ofList [("extra", .null)]
    (c.bind (withoutNulls raw) .reject).violations = [] ∧
      (c.bind raw .reject).violations = [.unexpected "extra"] ∧
      (c.bindValues (.ofList [("extra", .null)])).violations = [] := by
  decide +kernel

/-! ### Requests that can be read -/

/-- What an entry of a request is read as, unless it is null, malformed or of a name that is not
declared. -/
def read? (c : Contract) (key : String) (j : Json) : Option Value :=
  if j = .null then none else (c.get? key).bind (fun slot => Value.coerce? j slot.type)

/-- The values that a request is read as. -/
def coerced (c : Contract) (raw : Dict Json) : Dict Value :=
  .ofList (raw.toList.filterMap (fun e => (c.read? e.1 e.2).map (e.1, ·)))

theorem get?_coerced (c : Contract) (raw : Dict Json) (name : String) :
    (c.coerced raw).get? name = (raw.get? name).bind (c.read? name) :=
  Dict.get?_filterMap raw c.read? name

/-- Whether all that a request has for declared names can be read at the types of their slots. -/
def Reads (c : Contract) (raw : Dict Json) : Prop :=
  ∀ slot ∈ c.slots, ∀ j ∈ raw.get? slot.name, j ≠ .null → (Value.coerce? j slot.type).isSome = true

instance (c : Contract) (raw : Dict Json) : Decidable (c.Reads raw) := by
  unfold Reads
  infer_instance

/-- What can be read is supplied as what it is read as. -/
theorem Reads.suppliedBy_eq (reads : c.Reads raw) (distinct : c.Distinct) :
    c.suppliedBy raw = c.typedSupply (c.coerced raw) := by
  apply Dict.ext_get?
  intro name
  rw [get?_suppliedBy_eq distinct, get?_typedSupply, get?_coerced, contains]
  cases found : c.get? name with
  | none => rfl
  | some slot =>
    have declared : slot ∈ c.slots := List.mem_of_find?_eq_some found
    have named : slot.name = name := by simpa using List.find?_some found
    subst named
    rw [Option.bind_some, Option.isSome_some, if_pos rfl]
    cases given : raw.get? slot.name with
    | none => simp [taken?, requested?, given]
    | some j =>
      -- A null is absent on either side, and nothing else is read as null.
      by_cases null : j = .null
      · subst null
        simp [taken?, requested?, given, read?]
      · obtain ⟨v, coerced⟩ := Option.isSome_iff_exists.mp (reads slot declared j given null)
        have taken : taken? raw slot = some (some v) := by
          rw [taken?, requested?_eq_some.mpr ⟨j, given, null, Value.coerce_eq_ok.mpr coerced⟩]
          rfl
        have read : c.read? slot.name j = some v := by
          rw [read?, if_neg null, found, Option.bind_some, coerced]
        have some_ := Value.isNull_of_coerce? coerced null
        rw [taken, Option.bind_some, read, Option.filter_some, some_]
        rfl

theorem Reads.mismatches_eq (reads : c.Reads raw) : c.mismatches raw = [] := by
  rw [List.eq_nil_iff_forall_not_mem]
  intro violation member
  obtain ⟨slot, declared, j, given, null, malformed, -⟩ := mem_mismatches.mp member
  have readable := reads slot declared j given null
  rw [malformed] at readable
  cases readable

/-- What has been read is of a declared name and fits its slot. -/
theorem typedViolation?_coerced {v : Value} (found : (c.coerced raw).get? name = some v) :
    c.typedViolation? name v = none := by
  rw [get?_coerced] at found
  obtain ⟨j, -, read⟩ := Option.bind_eq_some_iff.mp found
  unfold read? at read
  split at read
  next => cases read
  next =>
    obtain ⟨slot, declared, coerced⟩ := Option.bind_eq_some_iff.mp read
    have fits : v.type.satisfies slot.type = true := Value.satisfies_of_coerce? coerced
    simp only [typedViolation?, declared, Value.check, fits, if_true]

theorem violations_bindValues_coerced : (c.bindValues (c.coerced raw)).violations =
    (c.resolve (c.typedSupply (c.coerced raw))).2 := by
  have none : ((c.coerced raw).filter (fun _ v => !v.isNull)).toList.filterMap
      (fun e => c.typedViolation? e.1 e.2) = [] := by
    rw [List.filterMap_eq_nil_iff]
    intro e member
    have found := Dict.mem_toList.mp member
    rw [Dict.get?_filter, Option.filter_eq_some_iff] at found
    exact typedViolation?_coerced found.1
  change _ ++ (c.resolve (c.typedSupply (c.coerced raw))).2 = _
  rw [none, List.nil_append]

/-- A request of declared names that can all be read is bound just as the values that it is read as, and
no type is wrong. -/
theorem bind_eq_bindValues (c : Contract) (distinct : c.Distinct) (raw : Dict Json)
    (declared : ∀ key ∈ raw.keys, key ∈ c.names) (reads : c.Reads raw) (policy : ExtraParameters) :
    c.bind raw policy = c.bindValues (c.coerced raw) ∧
      ∀ slot expected found,
        .typeMismatch slot expected found ∉ (c.bind raw policy).violations := by
  have known : c.undeclared raw = [] := by
    rw [List.eq_nil_iff_forall_not_mem]
    intro key unknown
    obtain ⟨there, other⟩ := mem_undeclared.mp unknown
    exact other (declared key (Dict.contains_iff_mem_keys.mp there))
  have typed : c.bindValues (c.coerced raw) = ⟨(c.resolve (c.suppliedBy raw)).1,
      (c.resolve (c.suppliedBy raw)).2, []⟩ := by
    rw [reads.suppliedBy_eq distinct, ← violations_bindValues_coerced]
    rfl
  -- With nothing to report before the rules of presence, the policy makes no difference.
  have same : c.bind raw policy = c.bindValues (c.coerced raw) := by
    rw [typed]
    cases policy <;> simp only [bind, known, reads.mismatches_eq, List.map_nil, List.nil_append]
  refine ⟨same, ?_⟩
  intro slot expected found member
  rw [same, typeMismatch_mem] at member
  obtain ⟨v, other, read, -, there, wrong, -, -⟩ := member
  have fine := typedViolation?_coerced read
  simp [typedViolation?, there, Value.check, wrong] at fine

/-- A sheet whose size is written in a form, with a default left alone by a null and two members of a
group. -/
theorem bind_eq_bindValues_sheet :
    let c : Contract := .ofSlots [.plain "size" .integer .required,
      .plain "scale" .number (.hasDefault (.integer 1)), ⟨"bbox", .list, .required, [], some "extent"⟩,
      ⟨"center", .string, .required, ["zoom"], some "extent"⟩]
    let raw : Dict Json := .ofList [("size", .text " 42 "), ("scale", .null),
      ("bbox", .array [.bool true, .null]), ("center", .bool true)]
    c.Distinct ∧ (∀ key ∈ raw.keys, key ∈ c.names) ∧ c.Reads raw ∧
      c.bind raw .reject = c.bindValues (c.coerced raw) ∧
      (c.coerced raw).get? "size" = some (.integer 42) ∧
      (c.bind raw .reject).violations =
        [.missingRequiredBy "zoom" "center", .manyOfGroup "extent" ["bbox", "center"]] := by
  intro c raw
  have distinct : c.Distinct := by decide +kernel
  have declared : ∀ key ∈ raw.keys, key ∈ c.names := by decide +kernel
  have reads : c.Reads raw := by decide +kernel
  exact ⟨distinct, declared, reads, (bind_eq_bindValues c distinct raw declared reads .reject).1,
    by decide +kernel, by decide +kernel⟩

end Contract

end Printworks
