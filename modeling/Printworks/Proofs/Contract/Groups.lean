import Printworks.Proofs.Contract.Violations

/-!
# Groups of slots

Values are refused unless exactly one slot of each group has been supplied. That slot has what has been
supplied for it. The others have not been supplied, but their defaults are filled in like all others, so
that exactly one slot of a group has a value exactly if no other one has a default.
-/

namespace Printworks

namespace Contract

variable {c : Contract} {supplied : Supplied} {raw : Dict Json} {policy : ExtraParameters}
  {values : Dict Value} {group : String}

theorem mem_groupMembers {name : String} : name ∈ c.groupMembers group ↔
    ∃ slot ∈ c.slots, slot.oneOf = some group ∧ slot.name = name := by
  simp [groupMembers, and_assoc]

/-! ### The supplied member -/

/-- One slot of a group has been given and has a value, and the other ones have not been given and have
no values but their defaults. -/
structure Picks (c : Contract) (IsGiven : String → Prop) (values : Dict Value)
    (group picked : String) : Prop where
  member : picked ∈ c.groupMembers group
  given : IsGiven picked
  value : ∃ v, values.get? picked = some v ∧ v.isNull = false
  others : ∀ slot ∈ c.slots, slot.oneOf = some group → slot.name ≠ picked →
    ¬ IsGiven slot.name ∧ values.get? slot.name = slot.default?

/-- Exactly one slot of a group has a value, exactly if none but the given one has a default. -/
theorem Picks.existsUnique_iff {IsGiven : String → Prop} {picked : String}
    (picks : c.Picks IsGiven values group picked) :
    (∃! name, name ∈ c.groupMembers group ∧ (values.get? name).isSome = true) ↔
      ∀ slot ∈ c.slots, slot.oneOf = some group → slot.default?.isSome = true →
        slot.name = picked := by
  obtain ⟨v, found, -⟩ := picks.value
  constructor
  · rintro ⟨name, -, unique⟩ slot declared grouped default
    by_contra other
    -- The default would be a second value beside that of the given slot.
    have filled : (values.get? slot.name).isSome = true := by
      rwa [(picks.others slot declared grouped other).2]
    have first := unique picked ⟨picks.member, by rw [found]; rfl⟩
    have second := unique slot.name ⟨mem_groupMembers.mpr ⟨slot, declared, grouped, rfl⟩, filled⟩
    exact other (second.trans first.symm)
  · intro alone
    refine ⟨picked, ⟨picks.member, by rw [found]; rfl⟩, ?_⟩
    rintro name ⟨member, filled⟩
    obtain ⟨slot, declared, grouped, rfl⟩ := mem_groupMembers.mp member
    by_contra other
    rw [(picks.others slot declared grouped other).2] at filled
    exact other (alone slot declared grouped filled)

/-- Groups are in order if exactly one member of each has been supplied. -/
theorem exists_supplied (fine : c.groupViolations supplied = [])
    (inhabited : c.groupMembers group ≠ []) :
    ∃ picked ∈ c.groupMembers group, supplied.contains picked = true ∧
      ∀ name ∈ c.groupMembers group, supplied.contains name = true → name = picked := by
  have quiet : groupViolation? supplied group (c.groupMembers group) = none := by
    rw [Option.eq_none_iff_forall_ne_some]
    intro violation reported
    have listed := mem_groupViolations.mpr ⟨group, inhabited, reported⟩
    rw [fine] at listed
    cases listed
  unfold groupViolation? at quiet
  split at quiet
  next => cases quiet
  next picked single =>
    have inside {name : String} : name ∈ c.groupMembers group ∧ supplied.contains name = true ↔
        name = picked := by
      rw [← List.mem_filter, single, List.mem_singleton]
    obtain ⟨member, there⟩ := inside.mpr rfl
    exact ⟨picked, member, there, fun name member there => inside.mp ⟨member, there⟩⟩
  next => cases quiet

/-- Where all that is supplied has a value, one slot of each group is picked. -/
theorem picks_boundValues (distinct : c.Distinct) (fine : c.groupViolations supplied = [])
    (whole : ∀ name value, supplied.get? name = some value → ∃ v, value = some v ∧ v.isNull = false)
    {IsGiven : String → Prop}
    (same : ∀ name ∈ c.names, (supplied.contains name = true ↔ IsGiven name))
    (inhabited : c.groupMembers group ≠ []) :
    ∃ picked, c.Picks IsGiven (c.boundValues supplied) group picked := by
  obtain ⟨picked, member, there, unique⟩ := exists_supplied fine inhabited
  obtain ⟨slot, declared, grouped, rfl⟩ := mem_groupMembers.mp member
  obtain ⟨value, found⟩ := Option.isSome_iff_exists.mp there
  obtain ⟨v, rfl, some_⟩ := whole _ _ found
  refine ⟨slot.name, ⟨member, (same _ (List.mem_map_of_mem declared)).mp there, ?_, ?_⟩⟩
  · exact ⟨v, by rw [get?_boundValues, found], some_⟩
  · intro other inside alike ne
    have absent : supplied.contains other.name ≠ true := by
      intro also
      exact ne (unique _ (mem_groupMembers.mpr ⟨other, inside, alike, rfl⟩) also)
    constructor
    · rwa [← same _ (List.mem_map_of_mem inside)]
    · rw [get?_boundValues, Option.not_isSome_iff_eq_none.mp absent]
      exact fallback?_of_mem distinct inside

/-! ### Requests and typed values -/

theorem groupViolations_of_isValid (valid : (c.bind raw policy).isValid = true) :
    c.groupViolations (c.suppliedBy raw) = [] := by
  rw [Binding.isValid, List.isEmpty_iff] at valid
  rw [List.eq_nil_iff_forall_not_mem]
  intro violation member
  have reported : violation ∈ (c.bind raw policy).violations :=
    mem_violations_bind.mpr (.inr (.inr (.inr (.inr member))))
  rw [valid] at reported
  cases reported

/-- All that a valid request supplies has been read as a value that is not null. -/
theorem exists_value_of_suppliedBy (distinct : c.Distinct)
    (valid : (c.bind raw policy).isValid = true) {name : String} {value : Option Value}
    (found : (c.suppliedBy raw).get? name = some value) :
    ∃ v, value = some v ∧ v.isNull = false := by
  obtain ⟨slot, declared, -, taken⟩ := (get?_suppliedBy distinct).mp found
  cases value with
  | none => exact absurd (isValid_bind valid).1 (mismatches_ne_nil_of_taken? declared taken)
  | some v =>
    obtain ⟨j, -, notNull, coerced⟩ := taken?_eq_value taken
    exact ⟨v, rfl, Value.isNull_of_coerce? coerced notNull⟩

theorem exists_value_of_typedSupply {name : String} {value : Option Value}
    (found : (c.typedSupply values).get? name = some value) :
    ∃ v, value = some v ∧ v.isNull = false := by
  rw [get?_typedSupply] at found
  split at found
  next =>
    obtain ⟨v, kept, rfl⟩ := Option.map_eq_some_iff.mp found
    exact ⟨v, rfl, by simpa using (Option.filter_eq_some_iff.mp kept).2⟩
  next => cases found

/-- Typed values supply the declared names for which they hold something. -/
theorem contains_typedSupply {name : String} (declared : name ∈ c.names) :
    (c.typedSupply values).contains name = true ↔
      ∃ v, values.get? name = some v ∧ v.isNull = false := by
  rw [Dict.contains, get?_typedSupply, if_pos (contains_iff.mpr declared), Option.isSome_map,
    Option.isSome_iff_exists]
  simp [Option.filter_eq_some_iff]

theorem groupViolations_of_isValid_bindValues (valid : (c.bindValues values).isValid = true) :
    c.groupViolations (c.typedSupply values) = [] := by
  have all : (c.bindValues values).violations =
      (values.filter (fun _ v => !v.isNull)).toList.filterMap
        (fun e => c.typedViolation? e.1 e.2) ++
      (c.missingRequired (c.typedSupply values) ++ c.missingRequiredBy (c.typedSupply values) ++
        c.groupViolations (c.typedSupply values)) := rfl
  rw [Binding.isValid, List.isEmpty_iff, all, List.append_eq_nil_iff,
    List.append_eq_nil_iff] at valid
  exact valid.2.2

/-- What is accepted has been given for exactly one slot of each group, be it a request or values of
their types. Exactly one slot has a value, exactly if none but that one has a default. -/
theorem group_picks (c : Contract) (distinct : c.Distinct) (group : String) (members : List String)
    (found : c.groups.get? group = some members) :
    (∀ raw policy, (c.bind raw policy).isValid = true →
      ∃ picked, c.Picks (c.Supplies raw) (c.bind raw policy).values group picked ∧
        ((∃! name, name ∈ members ∧ ((c.bind raw policy).values.get? name).isSome = true) ↔
          ∀ slot ∈ c.slots, slot.oneOf = some group → slot.default?.isSome = true →
            slot.name = picked)) ∧
    (∀ values, (c.bindValues values).isValid = true →
      ∃ picked, c.Picks (fun name => ∃ v, values.get? name = some v ∧ v.isNull = false)
          (c.bindValues values).values group picked ∧
        ((∃! name, name ∈ members ∧ ((c.bindValues values).values.get? name).isSome = true) ↔
          ∀ slot ∈ c.slots, slot.oneOf = some group → slot.default?.isSome = true →
            slot.name = picked)) := by
  rw [get?_groups] at found
  split at found
  next => cases found
  next inhabited =>
    cases found
    constructor
    · intro raw policy valid
      obtain ⟨picked, picks⟩ := picks_boundValues distinct (groupViolations_of_isValid valid)
        (fun _ _ => exists_value_of_suppliedBy distinct valid)
        (fun _ _ => contains_suppliedBy distinct) inhabited
      have values : (c.bind raw policy).values = c.boundValues (c.suppliedBy raw) := values_bind
      rw [← values] at picks
      exact ⟨picked, picks, picks.existsUnique_iff⟩
    · intro values valid
      obtain ⟨picked, picks⟩ := picks_boundValues distinct
        (groupViolations_of_isValid_bindValues valid) (fun _ _ => exists_value_of_typedSupply)
        (fun _ declared => contains_typedSupply declared) inhabited
      exact ⟨picked, picks, picks.existsUnique_iff⟩

/-- A map whose extent is given by its center, bare or in a form. -/
theorem group_picks_extent :
    let c : Contract := .ofSlots [⟨"bbox", .list, .required, [], some "extent"⟩,
      ⟨"center", .string, .required, ["zoom"], some "extent"⟩,
      ⟨"tiles", .any, .internal, [], some "extent"⟩, .plain "zoom" .integer (.hasDefault (.integer 9))]
    let raw : Dict Json := .ofList [("bbox", .null), ("center", .text "7,46")]
    c.Distinct ∧ c.groups.get? "extent" = some ["bbox", "center", "tiles"] ∧
      (∃ picked, c.Picks (c.Supplies raw) (c.bind raw .warn).values "extent" picked) ∧
      (∃! name, name ∈ ["bbox", "center", "tiles"] ∧
        ((c.bindValues (.ofList [("center", .string "7,46")])).values.get? name).isSome = true) := by
  intro c raw
  have distinct : c.Distinct := by decide +kernel
  have found : c.groups.get? "extent" = some ["bbox", "center", "tiles"] := by decide +kernel
  obtain ⟨requests, typed⟩ := group_picks c distinct "extent" _ found
  obtain ⟨picked, picks, -⟩ := requests raw .warn (by decide +kernel)
  obtain ⟨other, picks', unique⟩ := typed (.ofList [("center", .string "7,46")]) (by decide +kernel)
  refine ⟨distinct, found, ⟨picked, picks⟩, unique.mpr ?_⟩
  -- The only slot with a default is in no group.
  have none : ∀ slot ∈ c.slots, slot.oneOf = some "extent" → slot.default?.isSome = false := by
    decide +kernel
  intro slot declared grouped default
  rw [none slot declared grouped] at default
  cases default

/-- A slot of a group gets its default beside the one that has been given, and nothing is wrong with
that: two slots have values. -/
theorem default_beside_given :
    let c : Contract := .ofSlots [⟨"bbox", .any, .required, [], some "extent"⟩,
      ⟨"center", .any, .hasDefault (.integer 0), [], some "extent"⟩]
    let bound := c.bind (.ofList [("bbox", .int 1)]) .reject
    let typed := c.bindValues (.ofList [("bbox", .integer 1)])
    c.Distinct ∧ c.groups.get? "extent" = some ["bbox", "center"] ∧
      bound.isValid = true ∧ typed.isValid = true ∧
      (¬ ∃! name, name ∈ ["bbox", "center"] ∧ (bound.values.get? name).isSome = true) ∧
      ¬ ∃! name, name ∈ ["bbox", "center"] ∧ (typed.values.get? name).isSome = true := by
  intro c bound typed
  have both {values : Dict Value} (first : (values.get? "bbox").isSome = true)
      (second : (values.get? "center").isSome = true) :
      ¬ ∃! name, name ∈ ["bbox", "center"] ∧ (values.get? name).isSome = true := by
    intro unique
    have same : "bbox" = "center" := unique.unique ⟨by decide, first⟩ ⟨by decide, second⟩
    exact absurd same (by decide)
  exact ⟨by decide +kernel, by decide +kernel, by decide +kernel, by decide +kernel,
    both (by decide +kernel) (by decide +kernel), both (by decide +kernel) (by decide +kernel)⟩

end Contract

end Printworks
