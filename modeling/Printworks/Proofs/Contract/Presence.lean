import Mathlib.Tactic.Common
import Printworks.Proofs.Dict
import Printworks.Stage.Workspace

/-!
# What is present when values are bound

Binding goes by which slots have been supplied, and values that are null count as absent. A slot is
bound to what has been supplied for it, or else to its default. A violation of presence is reported
exactly if what it says is so.
-/

namespace Printworks

/-- Whether a slot comes to have a value wherever the rules of presence are kept: it is required by
itself or has a default. -/
def Slot.isAssured (s : Slot) : Bool := s.isRequired || s.default?.isSome

/-- Whether a violation is about what is there and what is not. -/
def Violation.isPresence (v : Violation) : Bool :=
  match v with
  | .typeMismatch _ _ _ => false
  | .unexpected _ => false
  | _ => true

namespace Contract

variable {c : Contract} {supplied : Supplied}

theorem contains_iff {name : String} : c.contains name = true ↔ name ∈ c.names := by
  simp [contains, get?, names]

theorem get?_of_mem (distinct : c.Distinct) {slot : Slot} (member : slot ∈ c.slots) :
    c.get? slot.name = some slot := by
  cases found : c.get? slot.name with
  | none =>
    rw [get?, List.find?_eq_none] at found
    simpa using found slot member
  | some other =>
    have there : other ∈ c.slots := List.mem_of_find?_eq_some found
    have named : other.name = slot.name := by simpa using List.find?_some found
    rw [List.inj_on_of_nodup_map distinct there member named]

/-! ### Defaults -/

/-- The default of a name: that of the last slot of this name that has one. -/
def fallback? (c : Contract) (name : String) : Option Value :=
  c.slots.reverse.findSome? (fun slot => if slot.name = name then slot.default? else none)

theorem fallback?_of_mem (distinct : c.Distinct) {slot : Slot} (member : slot ∈ c.slots) :
    c.fallback? slot.name = slot.default? := by
  -- Which of the slots of this name comes last does not matter, since there is just one.
  have same {s : Slot} (there : s ∈ c.slots) (named : s.name = slot.name) : s = slot :=
    List.inj_on_of_nodup_map distinct there member named
  cases default : slot.default? with
  | none =>
    rw [fallback?, List.findSome?_eq_none_iff]
    intro s there
    split
    next named => rw [same (List.mem_reverse.mp there) named, default]
    next => rfl
  | some value =>
    cases found : c.fallback? slot.name with
    | none =>
      rw [fallback?, List.findSome?_eq_none_iff] at found
      have none := found slot (List.mem_reverse.mpr member)
      rw [if_pos rfl, default] at none
      cases none
    | some other =>
      obtain ⟨s, there, eq⟩ := List.exists_of_findSome?_eq_some found
      split at eq
      next named =>
        rw [same (List.mem_reverse.mp there) named, default] at eq
        exact eq.symm
      next => cases eq

private theorem get?_defaults (supplied : Supplied) (slots : List Slot) (values : Dict Value)
    (key : String) : (slots.foldl (fun values slot =>
      match slot.kind with
      | .hasDefault default =>
        if supplied.contains slot.name then values else values.insert slot.name default
      | _ => values) values).get? key =
      if supplied.contains key then values.get? key
      else (slots.reverse.findSome? (fun slot =>
        if slot.name = key then slot.default? else none)).or (values.get? key) := by
  -- A later default replaces an earlier one, so the search for it starts at the end.
  induction slots generalizing values with
  | nil => simp
  | cons slot rest ih =>
    rw [List.foldl_cons, ih, List.reverse_cons, List.findSome?_append]
    cases kind : slot.kind with
    | hasDefault default =>
      have own : slot.default? = some default := by rw [Slot.default?, kind]
      by_cases same : slot.name = key
      · subst same
        by_cases there : supplied.contains slot.name = true
        · simp [there]
        · simp [there, own, Dict.get?_insert_self]
      · by_cases there : supplied.contains slot.name = true
        · simp [there, same]
        · simp [there, same, Dict.get?_insert_ne]
    | required =>
      have own : slot.default? = none := by rw [Slot.default?, kind]
      simp [own]
    | internal =>
      have own : slot.default? = none := by rw [Slot.default?, kind]
      simp [own]

theorem get?_ofList_supplied (supplied : Supplied) (key : String) :
    (Dict.ofList (supplied.toList.filterMap (fun e => e.2.map (e.1, ·)))).get? key =
      (supplied.get? key).join :=
  Dict.get?_filterMap supplied (fun _ value => value) key

/-- A name is bound to what has been supplied for it, or else to its default. -/
theorem get?_boundValues (c : Contract) (supplied : Supplied) (key : String) :
    (c.boundValues supplied).get? key =
      match supplied.get? key with
      | some value => value
      | none => c.fallback? key := by
  have bound := get?_defaults supplied c.slots
    (Dict.ofList (supplied.toList.filterMap (fun e => e.2.map (e.1, ·)))) key
  rw [get?_ofList_supplied] at bound
  refine Eq.trans bound ?_
  cases found : supplied.get? key with
  | none => simp [Dict.contains, found, fallback?]
  | some value => simp [Dict.contains, found]

/-! ### Violations of presence -/

/-- The members of a group, in order of their declaration. -/
def groupMembers (c : Contract) (group : String) : List String :=
  (c.slots.filter (fun slot => slot.oneOf == some group)).map (·.name)

theorem get?_groups (c : Contract) (group : String) : c.groups.get? group =
    if c.groupMembers group = [] then none else some (c.groupMembers group) := by
  exact Dict.get?_collect c.slots (·.oneOf) (·.name) ∅ group

theorem mem_missingRequired {v : Violation} : v ∈ c.missingRequired supplied ↔
    ∃ slot ∈ c.slots, slot.isRequired = true ∧ supplied.contains slot.name = false ∧
      v = .missingRequired slot.name := by
  simp only [missingRequired, List.mem_map, List.mem_filter, Bool.and_eq_true, Bool.not_eq_true',
    and_assoc, eq_comm (a := v)]

theorem mem_missingRequiredBy {v : Violation} : v ∈ c.missingRequiredBy supplied ↔
    ∃ trigger ∈ c.slots, supplied.contains trigger.name = true ∧ ∃ name ∈ trigger.requires,
      c.leavesOpen supplied name = true ∧ v = .missingRequiredBy name trigger.name := by
  simp only [missingRequiredBy, List.mem_flatMap, List.mem_map, List.mem_filter, and_assoc,
    eq_comm (a := v)]

theorem mem_groupViolations {v : Violation} : v ∈ c.groupViolations supplied ↔
    ∃ group, c.groupMembers group ≠ [] ∧
      groupViolation? supplied group (c.groupMembers group) = some v := by
  simp only [groupViolations, List.mem_filterMap, Prod.exists, Dict.mem_toList, get?_groups,
    Option.ite_none_left_eq_some, Option.some.injEq, and_assoc, exists_and_left, exists_eq_left',
    ne_eq]

theorem groupViolation?_eq_some {group : String} {members : List String} {v : Violation} :
    groupViolation? supplied group members = some v ↔
      members.filter supplied.contains = [] ∧ v = .noneOfGroup group members ∨
        2 ≤ (members.filter supplied.contains).length ∧
          v = .manyOfGroup group (members.filter supplied.contains) := by
  rw [groupViolation?]
  cases members.filter supplied.contains with
  | nil => simp [eq_comm]
  | cons first rest =>
    cases rest with
    | nil => simp
    | cons second rest => simp [eq_comm]

/-- What counts as supplied of values that have their types already. -/
def typedSupply (c : Contract) (values : Dict Value) : Supplied :=
  ((values.filter (fun _ v => !v.isNull)).filter (fun name _ => c.contains name)).map some

theorem get?_typedSupply (c : Contract) (values : Dict Value) (name : String) :
    (c.typedSupply values).get? name =
      if c.contains name then ((values.get? name).filter (fun v => !v.isNull)).map some
      else none := by
  rw [typedSupply, Dict.get?_map, Dict.get?_filter, Dict.get?_filter]
  cases c.contains name with
  | false => simp
  | true => simp

/-- Binding typed values reports violations of presence for what has been supplied of them. -/
theorem mem_violations_bindValues {values : Dict Value} {v : Violation}
    (presence : v.isPresence = true) : v ∈ (c.bindValues values).violations ↔
      (∃ slot ∈ c.slots, slot.isRequired = true ∧
        (c.typedSupply values).contains slot.name = false ∧ v = .missingRequired slot.name) ∨
      (∃ slot ∈ c.slots, (c.typedSupply values).contains slot.name = true ∧
        ∃ name ∈ slot.requires, c.leavesOpen (c.typedSupply values) name = true ∧
          v = .missingRequiredBy name slot.name) ∨
      ∃ group, c.groupMembers group ≠ [] ∧
        groupViolation? (c.typedSupply values) group (c.groupMembers group) = some v := by
  -- What is said about values that are there is of other kinds.
  have typed : v ∉ (values.filter (fun _ v => !v.isNull)).toList.filterMap
      (fun e => c.typedViolation? e.1 e.2) := by
    intro member
    obtain ⟨e, -, violation⟩ := List.mem_filterMap.mp member
    unfold typedViolation? at violation
    split at violation
    next =>
      cases violation
      cases presence
    next slot found =>
      unfold Value.check at violation
      split at violation
      next => cases violation
      next error check =>
        split at check
        · cases check
        · cases check
          cases violation
          cases presence
  have all : (c.bindValues values).violations =
      (values.filter (fun _ v => !v.isNull)).toList.filterMap
        (fun e => c.typedViolation? e.1 e.2) ++
      (c.missingRequired (c.typedSupply values) ++ c.missingRequiredBy (c.typedSupply values) ++
        c.groupViolations (c.typedSupply values)) := rfl
  rw [all, List.mem_append, List.mem_append, List.mem_append, or_assoc, or_iff_right typed,
    mem_missingRequired, mem_missingRequiredBy, mem_groupViolations]

section

variable {values : Dict Value}

theorem missingRequired_mem {name : String} :
    .missingRequired name ∈ (c.bindValues values).violations ↔
      ∃ slot ∈ c.slots, slot.isRequired = true ∧
        (c.typedSupply values).contains slot.name = false ∧ name = slot.name := by
  rw [mem_violations_bindValues rfl]
  simp [groupViolation?_eq_some]

theorem missingRequiredBy_mem {name trigger : String} :
    .missingRequiredBy name trigger ∈ (c.bindValues values).violations ↔
      ∃ slot ∈ c.slots, (c.typedSupply values).contains slot.name = true ∧
        name ∈ slot.requires ∧ c.leavesOpen (c.typedSupply values) name = true ∧
          trigger = slot.name := by
  rw [mem_violations_bindValues rfl]
  simp [groupViolation?_eq_some]

theorem noneOfGroup_mem {group : String} {members : List String} :
    .noneOfGroup group members ∈ (c.bindValues values).violations ↔
      c.groupMembers group ≠ [] ∧
        (c.groupMembers group).filter (c.typedSupply values).contains = [] ∧
          members = c.groupMembers group := by
  rw [mem_violations_bindValues rfl]
  simp [groupViolation?_eq_some]

theorem manyOfGroup_mem {group : String} {present : List String} :
    .manyOfGroup group present ∈ (c.bindValues values).violations ↔
      c.groupMembers group ≠ [] ∧
        2 ≤ ((c.groupMembers group).filter (c.typedSupply values).contains).length ∧
          present = (c.groupMembers group).filter (c.typedSupply values).contains := by
  rw [mem_violations_bindValues rfl]
  simp [groupViolation?_eq_some]

end

end Contract

end Printworks
