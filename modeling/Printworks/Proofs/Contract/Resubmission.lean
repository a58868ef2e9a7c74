import Printworks.CommandLine.Run
import Printworks.Proofs.Contract.Groups
import Printworks.Proofs.Definition.Declaration
import Printworks.Proofs.Json.Canonical
import Printworks.Proofs.Value.Rendering

/-!
# Submitting what has been bound

The values that a request comes to can be written as plain documents and make up a request again. It is
bound to the same values, as long as all numbers are finite. It gives the defaults by name, though, and
so they count for groups and for what slots require, as they did not before. The request is accepted
again exactly if each default that was filled in is that of a slot in no group, and all names that this
slot requires have values.
-/

namespace Printworks

theorem Slot.default?_eq_some {slot : Slot} {v : Value} :
    slot.default? = some v ↔ slot.kind = .hasDefault v := by
  cases kind : slot.kind <;> simp [Slot.default?, kind]

theorem Slot.isAssured_iff {slot : Slot} : slot.isAssured = true ↔
    slot.kind = .required ∧ slot.oneOf = none ∨ ∃ v, slot.kind = .hasDefault v := by
  simp only [Slot.isAssured, Slot.isRequired, Bool.or_eq_true, Bool.and_eq_true,
    Option.isNone_iff_eq_none, Option.isSome_iff_exists, Slot.default?_eq_some, beq_iff_eq]

namespace Contract

variable {c : Contract} {raw : Dict Json} {policy policy' : ExtraParameters} {name : String}

/-- Whether a contract declares each name once and its defaults have been coerced from documents, as
those of definitions are. -/
structure IsCoerced (c : Contract) : Prop where
  distinct : c.Distinct
  defaults : ∀ slot ∈ c.slots, ∀ v, slot.default? = some v →
    ∃ j, Value.coerce? j slot.type = some v

theorem isCoerced_of_declareAll {ds : List SlotDefinition}
    (declared : SlotDefinition.declareAll ds = .ok c) : c.IsCoerced := by
  constructor
  · exact (SlotDefinition.isTyped_of_declareAll declared).distinct
  · intro slot member v default
    obtain ⟨d, -, one⟩ := SlotDefinition.exists_of_declareAll declared member
    obtain ⟨j, -, coerced⟩ := SlotDefinition.default?_of_declare one default
    exact ⟨j, coerced⟩

/-- The values that a request comes to, written as the entries of a request. -/
def rendered (c : Contract) (raw : Dict Json) (policy : ExtraParameters) : Dict Json :=
  (c.bind raw policy).values.map Value.toJson

/-- Whether all numbers that a request comes to are finite. -/
def IsRenderable (c : Contract) (raw : Dict Json) (policy : ExtraParameters) : Prop :=
  ∀ name v, (c.bind raw policy).values.get? name = some v → v.IsFinite

theorem isValid_iff (distinct : c.Distinct) :
    (c.bind raw policy).isValid = true ↔ ∀ violation, ¬ c.Breaks raw policy violation := by
  rw [Binding.isValid, List.isEmpty_iff, List.eq_nil_iff_forall_not_mem]
  exact forall_congr' (fun violation => not_congr (mem_violations_iff distinct))

/-! ### The values -/

theorem get?_rendered (c : Contract) (raw : Dict Json) (policy : ExtraParameters) (name : String) :
    (c.rendered raw policy).get? name = ((c.bind raw policy).values.get? name).map Value.toJson :=
  Dict.get?_map _ _ _

/-- Every value has been coerced from a document: from one of the request or from that of a default. -/
theorem exists_coerce? (coerced : c.IsCoerced) {v : Value}
    (found : (c.bind raw policy).values.get? name = some v) :
    ∃ slot ∈ c.slots, slot.name = name ∧ ∃ j, Value.coerce? j slot.type = some v := by
  obtain ⟨slot, declared, named, source⟩ := get?_bind coerced.distinct found
  refine ⟨slot, declared, named, ?_⟩
  rcases source with ⟨j, -, -, read⟩ | default
  · exact ⟨j, read⟩
  · exact coerced.defaults slot declared v default

/-- What has been bound to a name is what its plain document is read as. -/
theorem coerce?_rendered (coerced : c.IsCoerced) (renderable : c.IsRenderable raw policy)
    {slot : Slot} (declared : slot ∈ c.slots) {v : Value}
    (found : (c.bind raw policy).values.get? slot.name = some v) :
    Value.coerce? v.toJson slot.type = some v := by
  obtain ⟨other, there, named, j, read⟩ := exists_coerce? coerced found
  obtain rfl := List.inj_on_of_nodup_map coerced.distinct there declared named
  exact Value.coerce?_toJson read (renderable _ _ found)

/-- The document of what has been bound is read as the request that it makes up. -/
theorem dict?_rendered (coerced : c.IsCoerced) :
    (Json.ofDict (c.rendered raw policy)).dict? = some (c.rendered raw policy) := by
  have entries : (Json.canonicalEntries (c.rendered raw policy).toList).toList =
      (c.rendered raw policy).toList := by
    apply Json.canonicalEntries_of_increasing (c.rendered raw policy).increasing
    intro e member
    have given := Dict.mem_toList.mp member
    rw [get?_rendered] at given
    obtain ⟨v, found, eq⟩ := Option.map_eq_some_iff.mp given
    obtain ⟨slot, -, -, j, read⟩ := exists_coerce? coerced found
    rw [← eq]
    exact Value.canonical_toJson v (Value.isOrdered_of_coerce? read)
  exact congrArg some (Dict.ext entries)

/-- Whether a slot comes by its default, which is not null. -/
def IsFilled (c : Contract) (raw : Dict Json) (slot : Slot) : Prop :=
  ¬ c.Supplies raw slot.name ∧ ∃ v, slot.kind = .hasDefault v ∧ v.isNull = false

section

variable (coerced : c.IsCoerced) (renderable : c.IsRenderable raw policy)
  (valid : (c.bind raw policy).isValid = true)

include coerced renderable

/-- What is supplied again is what has a value that is not null. -/
theorem supplies_rendered : c.Supplies (c.rendered raw policy) name ↔
    ∃ v, (c.bind raw policy).values.get? name = some v ∧ v.isNull = false := by
  have notNull {v : Value} (found : (c.bind raw policy).values.get? name = some v) :
      v.toJson ≠ .null ↔ v.isNull = false := by
    rw [Ne, Value.toJson_eq_null (renderable _ _ found), Bool.not_eq_true]
  constructor
  · rintro ⟨-, j, given, some_⟩
    rw [get?_rendered] at given
    obtain ⟨v, found, rfl⟩ := Option.map_eq_some_iff.mp given
    exact ⟨v, found, (notNull found).mp some_⟩
  · rintro ⟨v, found, some_⟩
    obtain ⟨slot, declared, named, -⟩ := get?_bind coerced.distinct found
    refine ⟨List.mem_map.mpr ⟨slot, declared, named⟩, v.toJson, ?_, (notNull found).mpr some_⟩
    rw [get?_rendered, found, Option.map_some]

include valid

/-- A name that the request supplies has a value, and so is supplied again. -/
theorem supplies_rendered_of_supplies (supplied : c.Supplies raw name) :
    c.Supplies (c.rendered raw policy) name := by
  obtain ⟨value, found⟩ :=
    Option.isSome_iff_exists.mp ((contains_suppliedBy coerced.distinct).mpr supplied)
  obtain ⟨v, rfl, some_⟩ := exists_value_of_suppliedBy coerced.distinct valid found
  refine (supplies_rendered coerced renderable).mpr ⟨v, ?_, some_⟩
  rw [values_bind, get?_boundValues, found]

/-- What is supplied again was supplied before or is a default. -/
theorem supplies_rendered_iff {slot : Slot} (declared : slot ∈ c.slots) :
    c.Supplies (c.rendered raw policy) slot.name ↔
      c.Supplies raw slot.name ∨ c.IsFilled raw slot := by
  constructor
  · intro again
    by_cases supplied : c.Supplies raw slot.name
    · exact .inl supplied
    · obtain ⟨v, found, some_⟩ := (supplies_rendered coerced renderable).mp again
      have binds := (get?_values_iff coerced.distinct).mp found
      generalize same : slot.name = key at binds
      cases binds with
      | supplied there given notNull read =>
        rw [same] at supplied
        exact absurd ⟨List.mem_map_of_mem there, _, given, notNull⟩ supplied
      | default there kind absent =>
        obtain rfl := List.inj_on_of_nodup_map coerced.distinct there declared same.symm
        exact .inr ⟨absent, v, kind, some_⟩
  · rintro (supplied | ⟨absent, v, kind, some_⟩)
    · exact supplies_rendered_of_supplies coerced renderable valid supplied
    · exact (supplies_rendered coerced renderable).mpr
        ⟨v, (get?_values_iff coerced.distinct).mpr (.default declared kind absent), some_⟩

/-- Binding again comes to the same values. -/
theorem values_rendered :
    (c.bind (c.rendered raw policy) policy').values = (c.bind raw policy).values := by
  have distinct := coerced.distinct
  apply Dict.ext_get?
  intro name
  apply Option.ext
  intro v
  rw [get?_values_iff distinct]
  constructor
  · intro binds
    cases binds with
    | @supplied slot j _ declared given notNull read =>
      rw [get?_rendered] at given
      obtain ⟨w, found, rfl⟩ := Option.map_eq_some_iff.mp given
      rw [coerce?_rendered coerced renderable declared found] at read
      cases read
      exact found
    | @default slot _ declared kind absent =>
      have before : ¬ c.Supplies raw slot.name := fun supplied =>
        absent (supplies_rendered_of_supplies coerced renderable valid supplied)
      exact (get?_values_iff distinct).mpr (.default declared kind before)
  · intro found
    obtain ⟨slot, declared, rfl, source⟩ := get?_bind distinct found
    cases null : v.isNull with
    | false =>
      apply Binds.supplied declared (by rw [get?_rendered, found, Option.map_some])
      · rw [Ne, Value.toJson_eq_null (renderable _ _ found), null]
        exact Bool.false_ne_true
      · exact coerce?_rendered coerced renderable declared found
    | true =>
      -- Only a default can be null. It is not supplied again, and filled in once more.
      rcases source with ⟨j, -, notNull, read⟩ | default
      · rw [Value.isNull_of_coerce? read notNull] at null
        cases null
      · refine .default declared (Slot.default?_eq_some.mp default) ?_
        intro again
        obtain ⟨w, found', some_⟩ := (supplies_rendered coerced renderable).mp again
        rw [found] at found'
        cases found'
        rw [null] at some_
        cases some_

end

/-! ### The violations -/

theorem undeclared_rendered (distinct : c.Distinct) : c.undeclared (c.rendered raw policy) = [] := by
  rw [List.eq_nil_iff_forall_not_mem]
  intro key
  rw [mem_undeclared, Dict.contains, get?_rendered, Option.isSome_map, Option.isSome_iff_exists]
  rintro ⟨⟨v, found⟩, unknown⟩
  obtain ⟨slot, declared, rfl, -⟩ := get?_bind distinct found
  exact unknown (List.mem_map_of_mem declared)

theorem warnings_rendered (distinct : c.Distinct) :
    (c.bind (c.rendered raw policy) policy').warnings = [] := by
  cases policy' <;> simp [bind, undeclared_rendered distinct]

section

variable (coerced : c.IsCoerced) (renderable : c.IsRenderable raw policy)
  (valid : (c.bind raw policy).isValid = true)

include coerced renderable valid

/-- The names with values are those that are supplied again and those of slots that always have one. -/
theorem isSome_iff : ((c.bind raw policy).values.get? name).isSome = true ↔
    c.Supplies (c.rendered raw policy) name ∨
      ∃ slot ∈ c.slots, slot.name = name ∧ slot.isAssured = true := by
  rw [Option.isSome_iff_exists]
  constructor
  · rintro ⟨v, found⟩
    cases (get?_values_iff coerced.distinct).mp found with
    | supplied declared given notNull read =>
      exact .inl (supplies_rendered_of_supplies coerced renderable valid
        ⟨List.mem_map_of_mem declared, _, given, notNull⟩)
    | default declared kind absent =>
      exact .inr ⟨_, declared, rfl, Slot.isAssured_iff.mpr (.inr ⟨v, kind⟩)⟩
  · rintro (supplied | ⟨slot, declared, rfl, assured⟩)
    · obtain ⟨v, found, -⟩ := (supplies_rendered coerced renderable).mp supplied
      exact ⟨v, found⟩
    · exact exists_get?_bind coerced.distinct valid declared assured

/-- Without a default of the group that is filled in, the same of its slots are supplied again. -/
theorem suppliedMembers_rendered {group : String}
    (unfilled : ∀ slot ∈ c.slots, slot.oneOf = some group → ¬ c.IsFilled raw slot) :
    c.suppliedMembers (c.rendered raw policy) group = c.suppliedMembers raw group := by
  apply List.filter_congr
  intro name member
  obtain ⟨slot, declared, grouped, rfl⟩ := mem_groupMembers.mp member
  rw [decide_eq_decide, supplies_rendered_iff coerced renderable valid declared,
    or_iff_left (unfilled slot declared grouped)]

/-- Filling in the default of a slot in a group makes it a second one of the group. -/
theorem not_isFilled_of_oneOf (again : (c.bind (c.rendered raw policy) policy').isValid = true)
    {slot : Slot} (declared : slot ∈ c.slots) {group : String} (grouped : slot.oneOf = some group) :
    ¬ c.IsFilled raw slot := by
  intro filled
  have member : slot.name ∈ c.groupMembers group :=
    mem_groupMembers.mpr ⟨slot, declared, grouped, rfl⟩
  obtain ⟨picked, inside, there, -⟩ := exists_supplied
    (groupViolations_of_isValid valid) (List.ne_nil_of_mem member)
  obtain ⟨only, -, -, unique⟩ := exists_supplied
    (groupViolations_of_isValid again) (List.ne_nil_of_mem member)
  simp only [contains_suppliedBy coerced.distinct] at there unique
  have first := unique picked inside
    (supplies_rendered_of_supplies coerced renderable valid there)
  have second := unique slot.name member
    ((supplies_rendered_iff coerced renderable valid declared).mpr (.inr filled))
  rw [first, ← second] at there
  exact filled.1 there

/-- What a default requires that has been filled in is required when it is submitted. -/
theorem isSome_of_requires (again : (c.bind (c.rendered raw policy) policy').isValid = true)
    {slot : Slot} (declared : slot ∈ c.slots) (filled : c.IsFilled raw slot)
    (requires : name ∈ slot.requires) :
    ((c.bind raw policy).values.get? name).isSome = true := by
  by_contra empty
  rw [isSome_iff coerced renderable valid, not_or] at empty
  obtain ⟨absent, unassured⟩ := empty
  have supplied := (supplies_rendered_iff coerced renderable valid declared).mpr (.inr filled)
  apply (isValid_iff coerced.distinct).mp again
  apply Breaks.missingRequiredBy declared supplied requires absent
  · exact fun other there same required =>
      unassured ⟨other, there, same, Slot.isAssured_iff.mpr (.inl required)⟩
  · exact fun other there same v kind =>
      unassured ⟨other, there, same, Slot.isAssured_iff.mpr (.inr ⟨v, kind⟩)⟩

/-- The request is accepted again exactly if no default that is filled in has a say in groups or in what
is required. -/
theorem isValid_rendered :
    (c.bind (c.rendered raw policy) policy').isValid = true ↔
      ∀ slot ∈ c.slots, c.IsFilled raw slot → slot.oneOf = none ∧
        ∀ name ∈ slot.requires, ((c.bind raw policy).values.get? name).isSome = true := by
  constructor
  · intro again slot declared filled
    constructor
    · rw [Option.eq_none_iff_forall_ne_some]
      intro group grouped
      exact not_isFilled_of_oneOf coerced renderable valid again declared grouped filled
    · exact fun name requires =>
        isSome_of_requires coerced renderable valid again declared filled requires
  · intro apart
    have before := (isValid_iff coerced.distinct).mp valid
    have kept {name : String} : c.Supplies raw name → c.Supplies (c.rendered raw policy) name :=
      supplies_rendered_of_supplies coerced renderable valid
    rw [isValid_iff coerced.distinct]
    intro violation breaks
    cases breaks with
    | @typeMismatch slot j declared given notNull malformed =>
      rw [get?_rendered] at given
      obtain ⟨v, found, rfl⟩ := Option.map_eq_some_iff.mp given
      rw [coerce?_rendered coerced renderable declared found] at malformed
      cases malformed
    | @unexpected key given unknown strict =>
      have listed : key ∈ c.undeclared (c.rendered raw policy) :=
        mem_undeclared.mpr ⟨given, unknown⟩
      rw [undeclared_rendered coerced.distinct] at listed
      cases listed
    | missingRequired declared required single absent =>
      exact before _ (.missingRequired declared required single (mt kept absent))
    | @missingRequiredBy trigger name declared supplied requires absent other open_ =>
      rcases (supplies_rendered_iff coerced renderable valid declared).mp supplied with
        early | filled
      · exact before _ (.missingRequiredBy declared early requires (mt kept absent) other open_)
      · have full := (apart trigger declared filled).2 name requires
        rcases (isSome_iff coerced renderable valid).mp full with
          given | ⟨slot, there, same, assured⟩
        · exact absent given
        · rcases Slot.isAssured_iff.mp assured with required | ⟨v, kind⟩
          · exact other slot there same required
          · exact open_ slot there same v kind
    | @noneOfGroup group inhabited none =>
      exact before _ (.noneOfGroup inhabited (fun name member => mt kept (none name member)))
    | @manyOfGroup group many =>
      have unfilled : ∀ slot ∈ c.slots, slot.oneOf = some group → ¬ c.IsFilled raw slot := by
        intro slot declared grouped filled
        rw [(apart slot declared filled).1] at grouped
        cases grouped
      rw [suppliedMembers_rendered coerced renderable valid unfilled] at many
      exact before _ (.manyOfGroup many)

end

end Contract

end Printworks
