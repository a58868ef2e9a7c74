import Printworks.Proofs.Contract.Requests

/-!
# The violations of a request

What a contract asks of a request is written down here once more, rule by rule: `Breaks` says which
violations a request commits, and `Binds` which values it comes to. Binding a request reports the
former, all of them and no others, and binds the latter. The rules meet in the notion of what is
supplied: a value of a wrong type counts as supplied, and neither null nor a default does.
-/

namespace Printworks

namespace Value

theorem coerce_eq_ok {slot : String} {j : Json} {expected : ValueType} {v : Value} :
    coerce slot j expected = .ok v ↔ coerce? j expected = some v := by
  unfold coerce
  cases coerce? j expected <;> simp

theorem coerce_eq_error {slot : String} {j : Json} {expected : ValueType} {violation : Violation} :
    coerce slot j expected = .error violation ↔
      coerce? j expected = none ∧ violation = .typeMismatch slot expected j.typeName := by
  unfold coerce
  cases coerce? j expected <;> simp [eq_comm]

end Value

def Violation.isUnexpected (v : Violation) : Bool := v matches .unexpected _

namespace Contract

variable {c : Contract} {raw : Dict Json} {policy : ExtraParameters} {name : String}
  {violation : Violation}

/-! ### The rules -/

/-- Whether a request has something for a declared name. Null is nothing. -/
def Supplies (c : Contract) (raw : Dict Json) (name : String) : Prop :=
  name ∈ c.names ∧ ∃ j, raw.get? name = some j ∧ j ≠ .null

instance (c : Contract) (raw : Dict Json) (name : String) : Decidable (c.Supplies raw name) :=
  decidable_of_iff (name ∈ c.names ∧ (raw.get? name).any (fun j => decide (j ≠ .null)) = true)
    (by rw [Supplies, Option.any_eq_true]; simp)

/-- The members of a group that a request has something for. -/
def suppliedMembers (c : Contract) (raw : Dict Json) (group : String) : List String :=
  (c.groupMembers group).filter (fun name => decide (c.Supplies raw name))

/-- What a request does that a contract does not allow. -/
inductive Breaks (c : Contract) (raw : Dict Json) (policy : ExtraParameters) : Violation → Prop where
  /-- There is a value that cannot be read at the type of its slot. -/
  | typeMismatch {slot : Slot} {j : Json} (declared : slot ∈ c.slots)
      (given : raw.get? slot.name = some j) (notNull : j ≠ .null)
      (malformed : Value.coerce? j slot.type = none) :
      Breaks c raw policy (.typeMismatch slot.name slot.type j.typeName)
  /-- There is a name that is not declared. -/
  | unexpected {key : String} (given : raw.contains key = true) (unknown : key ∉ c.names)
      (strict : policy = .reject) : Breaks c raw policy (.unexpected key)
  /-- Nothing is there for a slot that is required by itself. -/
  | missingRequired {slot : Slot} (declared : slot ∈ c.slots) (required : slot.kind = .required)
      (single : slot.oneOf = none) (absent : ¬ c.Supplies raw slot.name) :
      Breaks c raw policy (.missingRequired slot.name)
  /-- Nothing is there for a name that a supplied slot requires. It is not the name of a slot that is
  required by itself, which is another violation, nor of one with a default. -/
  | missingRequiredBy {trigger : Slot} {name : String} (declared : trigger ∈ c.slots)
      (supplied : c.Supplies raw trigger.name) (requires : name ∈ trigger.requires)
      (absent : ¬ c.Supplies raw name)
      (other : ∀ slot ∈ c.slots, slot.name = name → ¬ (slot.kind = .required ∧ slot.oneOf = none))
      (open_ : ∀ slot ∈ c.slots, slot.name = name → ∀ v, slot.kind ≠ .hasDefault v) :
      Breaks c raw policy (.missingRequiredBy name trigger.name)
  /-- Nothing is there for any member of a group. -/
  | noneOfGroup {group : String} (inhabited : c.groupMembers group ≠ [])
      (none : ∀ name ∈ c.groupMembers group, ¬ c.Supplies raw name) :
      Breaks c raw policy (.noneOfGroup group (c.groupMembers group))
  /-- Something is there for several members of a group. -/
  | manyOfGroup {group : String} (many : 2 ≤ (c.suppliedMembers raw group).length) :
      Breaks c raw policy (.manyOfGroup group (c.suppliedMembers raw group))

/-- The value of a name: what is supplied for it, read at the type of its slot, or its default if
nothing is. -/
inductive Binds (c : Contract) (raw : Dict Json) : String → Value → Prop where
  | supplied {slot : Slot} {j : Json} {v : Value} (declared : slot ∈ c.slots)
      (given : raw.get? slot.name = some j) (notNull : j ≠ .null)
      (read : Value.coerce? j slot.type = some v) : Binds c raw slot.name v
  | default {slot : Slot} {v : Value} (declared : slot ∈ c.slots)
      (kind : slot.kind = .hasDefault v) (absent : ¬ c.Supplies raw slot.name) :
      Binds c raw slot.name v

/-! ### What is supplied -/

theorem requested?_eq_some {slot : Slot} {read : Except Violation Value} :
    requested? raw slot = some read ↔ ∃ j, raw.get? slot.name = some j ∧ j ≠ .null ∧
      Value.coerce slot.name j slot.type = read := by
  unfold requested?
  split
  next absent => simp [absent]
  next null => simp [null]
  next j notNull given =>
    have notNull : j ≠ .null := notNull
    simp [given, notNull]

/-- What is malformed is supplied, too. -/
theorem contains_suppliedBy (distinct : c.Distinct) :
    (c.suppliedBy raw).contains name = true ↔ c.Supplies raw name := by
  rw [Dict.contains, Option.isSome_iff_exists]
  simp only [get?_suppliedBy distinct, taken?, Option.map_eq_some_iff, requested?_eq_some]
  constructor
  · rintro ⟨_, slot, declared, rfl, _, ⟨j, given, notNull, -⟩, -⟩
    exact ⟨List.mem_map_of_mem declared, j, given, notNull⟩
  · rintro ⟨declared, j, given, notNull⟩
    obtain ⟨slot, member, rfl⟩ := List.mem_map.mp declared
    exact ⟨_, slot, member, rfl, _, ⟨j, given, notNull, rfl⟩, rfl⟩

theorem contains_suppliedBy_eq (distinct : c.Distinct) :
    (c.suppliedBy raw).contains = fun name => decide (c.Supplies raw name) :=
  funext (fun _ => Bool.eq_iff_iff.mpr ((contains_suppliedBy distinct).trans decide_eq_true_iff.symm))

theorem leavesOpen_iff (distinct : c.Distinct) : c.leavesOpen (c.suppliedBy raw) name = true ↔
    ¬ c.Supplies raw name ∧ ∀ slot ∈ c.slots, slot.name = name →
      ¬ (slot.kind = .required ∧ slot.oneOf = none) ∧ ∀ v, slot.kind ≠ .hasDefault v := by
  have required (slot : Slot) : slot.isRequired = true ↔ slot.kind = .required ∧ slot.oneOf = none := by
    simp [Slot.isRequired]
  have default (slot : Slot) : slot.default? = none ↔ ∀ v, slot.kind ≠ .hasDefault v := by
    cases kind : slot.kind <;> simp [Slot.default?, kind]
  rw [leavesOpen, contains_suppliedBy_eq distinct, Bool.and_eq_true, Bool.not_eq_true',
    decide_eq_false_iff_not, and_congr_right_iff]
  intro _
  split
  next unknown =>
    simp only [true_iff]
    rintro slot declared rfl
    rw [get?_of_mem distinct declared] at unknown
    cases unknown
  next slot found =>
    have declared : slot ∈ c.slots := List.mem_of_find?_eq_some found
    have named : slot.name = name := by simpa using List.find?_some found
    rw [Bool.and_eq_true, Bool.not_eq_true', ← Bool.not_eq_true, required, Option.isNone_iff_eq_none,
      default]
    -- Names are distinct, so that any slot of that name is the one that has been found.
    refine ⟨fun own other there same => ?_, fun all => all slot declared named⟩
    rwa [List.inj_on_of_nodup_map distinct there declared (same.trans named.symm)]

/-! ### What is reported -/

theorem mem_mismatches : violation ∈ c.mismatches raw ↔ ∃ slot ∈ c.slots, ∃ j,
    raw.get? slot.name = some j ∧ j ≠ .null ∧ Value.coerce? j slot.type = none ∧
      violation = .typeMismatch slot.name slot.type j.typeName := by
  rw [mismatches, List.mem_filterMap]
  refine exists_congr (fun slot => and_congr_right (fun _ => ?_))
  calc
    _ ↔ requested? raw slot = some (.error violation) := by split <;> simp_all
    _ ↔ _ := by simp only [requested?_eq_some, Value.coerce_eq_error]

theorem mem_undeclared {key : String} :
    key ∈ c.undeclared raw ↔ raw.contains key = true ∧ key ∉ c.names := by
  rw [undeclared, List.mem_filter, Dict.contains_iff_mem_keys, Bool.not_eq_true', ← Bool.not_eq_true,
    contains_iff]

theorem mem_unexpected : (∃ key ∈ c.undeclared raw, violation = .unexpected key) ↔
    ∃ key, raw.contains key = true ∧ key ∉ c.names ∧ violation = .unexpected key := by
  simp only [mem_undeclared, and_assoc]

theorem mem_violations_bind : violation ∈ (c.bind raw policy).violations ↔
    violation ∈ c.mismatches raw ∨
    (policy = .reject ∧ ∃ key ∈ c.undeclared raw, violation = .unexpected key) ∨
    violation ∈ c.missingRequired (c.suppliedBy raw) ∨
    violation ∈ c.missingRequiredBy (c.suppliedBy raw) ∨
    violation ∈ c.groupViolations (c.suppliedBy raw) := by
  cases policy <;> simp [bind, resolve, eq_comm]

/-- A request is bound with the violations that it commits. -/
theorem mem_violations_iff (distinct : c.Distinct) :
    violation ∈ (c.bind raw policy).violations ↔ c.Breaks raw policy violation := by
  rw [mem_violations_bind, mem_mismatches, mem_unexpected, mem_missingRequired,
    mem_missingRequiredBy, mem_groupViolations]
  simp only [groupViolation?_eq_some, contains_suppliedBy_eq distinct, leavesOpen_iff distinct]
  constructor
  -- Each part of what is reported comes from one of the rules.
  · rintro (⟨slot, declared, j, given, notNull, malformed, rfl⟩ | ⟨strict, key, given, unknown, rfl⟩ |
      ⟨slot, declared, required, absent, rfl⟩ |
      ⟨trigger, declared, supplied, name, requires, ⟨absent, rules⟩, rfl⟩ |
      ⟨group, inhabited, ⟨none, rfl⟩ | ⟨many, rfl⟩⟩)
    · exact .typeMismatch declared given notNull malformed
    · exact .unexpected given unknown strict
    · have required : slot.kind = .required ∧ slot.oneOf = none := by
        simpa [Slot.isRequired] using required
      exact .missingRequired declared required.1 required.2 (of_decide_eq_false absent)
    · exact .missingRequiredBy declared (of_decide_eq_true supplied) requires absent
        (fun slot there same => (rules slot there same).1)
        (fun slot there same => (rules slot there same).2)
    · exact .noneOfGroup inhabited (by simpa using none)
    · exact .manyOfGroup many
  · intro breaks
    cases breaks with
    | typeMismatch declared given notNull malformed =>
      exact .inl ⟨_, declared, _, given, notNull, malformed, rfl⟩
    | unexpected given unknown strict => exact .inr (.inl ⟨strict, _, given, unknown, rfl⟩)
    | missingRequired declared required single absent =>
      exact .inr (.inr (.inl ⟨_, declared, by simp [Slot.isRequired, required, single],
        decide_eq_false absent, rfl⟩))
    | missingRequiredBy declared supplied requires absent other open_ =>
      exact .inr (.inr (.inr (.inl ⟨_, declared, decide_eq_true supplied, _, requires,
        ⟨absent, fun slot there same => ⟨other slot there same, open_ slot there same⟩⟩, rfl⟩)))
    | @noneOfGroup group inhabited none =>
      exact .inr (.inr (.inr (.inr ⟨group, inhabited, .inl ⟨by simpa using none, rfl⟩⟩)))
    | @manyOfGroup group many =>
      have inhabited : c.groupMembers group ≠ [] := by
        intro empty
        simp [suppliedMembers, empty] at many
      exact .inr (.inr (.inr (.inr ⟨group, inhabited, .inr ⟨many, rfl⟩⟩)))

/-! ### What is bound -/

theorem fallback?_eq_some (distinct : c.Distinct) {v : Value} : c.fallback? name = some v ↔
    ∃ slot ∈ c.slots, slot.name = name ∧ slot.kind = .hasDefault v := by
  have default (slot : Slot) : slot.default? = some v ↔ slot.kind = .hasDefault v := by
    cases kind : slot.kind <;> simp [Slot.default?, kind]
  constructor
  · intro found
    obtain ⟨slot, member, has⟩ := List.exists_of_findSome?_eq_some found
    split at has
    next named => exact ⟨slot, List.mem_reverse.mp member, named, (default slot).mp has⟩
    next => cases has
  · rintro ⟨slot, member, rfl, kind⟩
    rw [fallback?_of_mem distinct member, default, kind]

/-- A request is bound to the values that it comes to. -/
theorem get?_values_iff (distinct : c.Distinct) {v : Value} :
    (c.bind raw policy).values.get? name = some v ↔ c.Binds raw name v := by
  have supplies : c.Supplies raw name ↔ (c.suppliedBy raw).get? name ≠ none := by
    rw [← contains_suppliedBy distinct, Dict.contains, Option.isSome_iff_ne_none]
  rw [values_bind, get?_boundValues]
  constructor
  · intro found
    cases supplied : (c.suppliedBy raw).get? name with
    -- What is supplied keeps the default out, also where it cannot be read.
    | some value =>
      rw [supplied] at found
      simp only at found
      rw [found] at supplied
      obtain ⟨slot, declared, rfl, taken⟩ := (get?_suppliedBy distinct).mp supplied
      obtain ⟨j, given, notNull, read⟩ := taken?_eq_value taken
      exact .supplied declared given notNull read
    | none =>
      rw [supplied] at found
      obtain ⟨slot, declared, rfl, kind⟩ := (fallback?_eq_some distinct).mp found
      exact .default declared kind (by simp [supplies, supplied])
  · intro binds
    cases binds with
    | @supplied slot j _ declared given notNull read =>
      have taken : taken? raw slot = some (some v) := by
        rw [taken?, requested?_eq_some.mpr ⟨j, given, notNull, Value.coerce_eq_ok.mpr read⟩]
        rfl
      rw [(get?_suppliedBy distinct).mpr ⟨slot, declared, rfl, taken⟩]
    | @default slot _ declared kind absent =>
      rw [supplies, not_not] at absent
      rw [absent]
      exact (fallback?_eq_some distinct).mpr ⟨slot, declared, rfl, kind⟩

/-! ### Names that are not declared -/

theorem not_isUnexpected_of_mem (other : violation ∈ c.mismatches raw ∨
    violation ∈ (c.resolve (c.suppliedBy raw)).2) : violation.isUnexpected = false := by
  simp only [resolve, List.mem_append, mem_mismatches, mem_missingRequired, mem_missingRequiredBy,
    mem_groupViolations, groupViolation?_eq_some] at other
  rcases other with ⟨_, _, _, _, _, _, rfl⟩ | (⟨_, _, _, _, rfl⟩ | ⟨_, _, _, _, _, _, rfl⟩) |
    ⟨_, _, ⟨_, rfl⟩ | ⟨_, rfl⟩⟩ <;> rfl

/-- Letting names through that are not declared takes their violations away and no others. -/
theorem violations_bind_warn : (c.bind raw .warn).violations =
    (c.bind raw .reject).violations.filter (fun violation => !violation.isUnexpected) := by
  have stay {violations : List Violation}
      (others : ∀ violation ∈ violations, violation.isUnexpected = false) :
      violations.filter (fun violation => !violation.isUnexpected) = violations :=
    List.filter_eq_self.mpr (fun violation member => by rw [others violation member]; rfl)
  have leave : ((c.undeclared raw).map Violation.unexpected).filter
      (fun violation => !violation.isUnexpected) = [] := by
    simp [List.filter_eq_nil_iff, Violation.isUnexpected]
  -- Names that are not declared make up the middle part of the list.
  have rejected : (c.bind raw .reject).violations =
      c.mismatches raw ++ (c.undeclared raw).map .unexpected ++ (c.resolve (c.suppliedBy raw)).2 := rfl
  rw [rejected, List.filter_append, List.filter_append, leave, List.append_nil,
    stay (fun violation member => not_isUnexpected_of_mem (.inl member)),
    stay (fun violation member => not_isUnexpected_of_mem (.inr member))]
  rfl

/-- Binding reports exactly the violations that a request commits, and binds exactly the values that it
comes to. Where names that are not declared are let through, there is one warning for each of them in
place of its violation, and nothing else is different. -/
theorem bind_exact (c : Contract) (distinct : c.Distinct) (raw : Dict Json) :
    (∀ policy violation,
      violation ∈ (c.bind raw policy).violations ↔ c.Breaks raw policy violation) ∧
    (∀ policy name v, (c.bind raw policy).values.get? name = some v ↔ c.Binds raw name v) ∧
    (c.bind raw .reject).warnings = [] ∧
    (c.bind raw .warn).warnings =
      (raw.keys.filter (fun key => decide (key ∉ c.names))).map ignoredWarning ∧
    (c.bind raw .warn).values = (c.bind raw .reject).values ∧
    (c.bind raw .warn).violations =
      (c.bind raw .reject).violations.filter (fun violation => !violation.isUnexpected) := by
  refine ⟨fun _ _ => mem_violations_iff distinct, fun _ _ _ => get?_values_iff distinct, rfl, ?_, rfl,
    violations_bind_warn⟩
  have unknown (key : String) : (!c.contains key) = decide (key ∉ c.names) := by
    rw [Bool.eq_iff_iff, Bool.not_eq_true', ← Bool.not_eq_true, contains_iff, decide_eq_true_iff]
  simp only [bind, undeclared, unknown]

/-- A map of an extent that is given twice, without the zoom that its center requires. -/
theorem bind_exact_extent :
    let c : Contract := .ofSlots [⟨"bbox", .string, .required, [], some "extent"⟩,
      ⟨"center", .string, .required, ["zoom"], some "extent"⟩, .plain "zoom" .integer .internal,
      .plain "scale" .integer (.hasDefault (.integer 1)), .plain "title" .string .required]
    let raw : Dict Json := .ofList [("bbox", .text "0,0,1,1"), ("center", .array []), ("dpi", .int 72),
      ("scale", .null)]
    c.Distinct ∧ c.Breaks raw .reject (.typeMismatch "center" .string "list") ∧
      c.Breaks raw .reject (.unexpected "dpi") ∧ c.Breaks raw .reject (.missingRequired "title") ∧
      c.Breaks raw .reject (.missingRequiredBy "zoom" "center") ∧
      c.Breaks raw .reject (.manyOfGroup "extent" ["bbox", "center"]) ∧
      c.Binds raw "scale" (.integer 1) := by
  intro c raw
  have distinct : c.Distinct := by decide +kernel
  have reported := (bind_exact c distinct raw).1 .reject
  have bound := (bind_exact c distinct raw).2.1 .reject
  refine ⟨distinct, (reported _).mp ?_, (reported _).mp ?_, (reported _).mp ?_, (reported _).mp ?_,
    (reported _).mp ?_, (bound _ _).mp ?_⟩ <;>
  decide +kernel

end Contract

end Printworks
