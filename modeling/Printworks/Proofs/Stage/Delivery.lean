import Printworks.Execution.Shift
import Printworks.Proofs.Contract.Presence
import Printworks.Proofs.Graph.Ownership
import Printworks.Stage.Workspace

/-!
# What a stage reads and delivers

A stage depends on the values only through the names that its inputs read. What it delivers are
outputs that it has declared, each under the name of its slot.
-/

namespace Printworks

/-! ### Reading -/

namespace StageSpec

variable {spec : StageSpec} {sure : Slot → Prop} {values values' read inputs : Dict Value}
  {count : Nat} {slot : Slot}

/-- Whether the first of the inputs of a stage, up to some number, have been read from values that have
only grown since. What has been read is still there; and what is there under the name that one of
those slots reads has been read for it, if the slot is sure to find its value when it looks. -/
structure HasRead (spec : StageSpec) (sure : Slot → Prop) (values read : Dict Value) (count : Nat) :
    Prop where
  within : ∀ key v, read.get? key = some v →
    key ∈ spec.inputs.names ∧ values.get? (spec.inputName key) = some v
  sure : ∀ slot ∈ spec.inputs.slots.take count, sure slot →
    read.get? slot.name = values.get? (spec.inputName slot.name)

theorem get?_readInput (spec : StageSpec) (values read : Dict Value) (slot : Slot) (key : String) :
    (spec.readInput values read slot).get? key =
      if key = slot.name then (values.get? (spec.inputName key)).or (read.get? key)
      else read.get? key := by
  unfold readInput
  by_cases same : key = slot.name
  · subst same
    cases values.get? (spec.inputName slot.name) with
    | none => simp
    | some v => simp [Dict.get?_insert_self]
  · have other : slot.name ≠ key := fun h => same h.symm
    cases values.get? (spec.inputName slot.name) with
    | none => simp [same]
    | some v => simp [same, Dict.get?_insert_ne _ _ other]

namespace HasRead

theorem start (spec : StageSpec) (sure : Slot → Prop) (values : Dict Value) :
    spec.HasRead sure values ∅ 0 := by
  constructor
  · intro key v found
    simp at found
  · intro slot member
    simp at member

/-- To read one more input. -/
theorem next (h : spec.HasRead sure values read count) (here : spec.inputs.slots[count]? = some slot) :
    spec.HasRead sure values (spec.readInput values read slot) (count + 1) := by
  constructor
  · intro key v found
    rw [get?_readInput] at found
    split at found
    next same =>
      rcases Option.or_eq_some_iff.mp found with now | ⟨-, before⟩
      · exact ⟨same ▸ List.mem_map_of_mem (List.mem_of_getElem? here), now⟩
      · exact h.within key v before
    next => exact h.within key v found
  · intro other member certain
    rw [List.take_add_one, here, List.mem_append] at member
    rw [get?_readInput]
    by_cases same : other.name = slot.name
    -- If a slot of the same name has been read before, it has found nothing else.
    · rw [if_pos same]
      cases now : values.get? (spec.inputName other.name) with
      | some v => rfl
      | none =>
        cases before : read.get? other.name with
        | none => rfl
        | some v =>
          rw [(h.within _ v before).2] at now
          cases now
    · rw [if_neg same]
      refine h.sure other (member.resolve_right (fun last => same ?_)) certain
      simpa using congrArg Slot.name (List.mem_singleton.mp last)

/-- Values may grow in the meantime, as long as there is nothing new under the names of those slots
that are sure to find their values. -/
theorem mono (h : spec.HasRead sure values read count)
    (grows : ∀ slot ∈ spec.inputs.slots, ∀ v, values.get? (spec.inputName slot.name) = some v →
      values'.get? (spec.inputName slot.name) = some v)
    (same : ∀ slot ∈ spec.inputs.slots, sure slot →
      values'.get? (spec.inputName slot.name) = values.get? (spec.inputName slot.name)) :
    spec.HasRead sure values' read count := by
  constructor
  · intro key v found
    obtain ⟨declared, there⟩ := h.within key v found
    obtain ⟨slot, member, rfl⟩ := List.mem_map.mp declared
    exact ⟨declared, grows slot member v there⟩
  · intro slot member certain
    rw [same slot (List.mem_of_mem_take member) certain]
    exact h.sure slot member certain

/-- Once all inputs have been read, each slot that is sure to find its value has found it. -/
theorem get? (h : spec.HasRead sure values read count) (all : spec.inputs.slots[count]? = none)
    (member : slot ∈ spec.inputs.slots) (certain : sure slot) :
    read.get? slot.name = values.get? (spec.inputName slot.name) := by
  refine h.sure slot ?_ certain
  rwa [List.take_of_length_le (List.getElem?_eq_none_iff.mp all)]

end HasRead

/-- To read all inputs at once is to read one after the other. -/
theorem hasRead_readInputs (spec : StageSpec) (sure : Slot → Prop) (values : Dict Value) :
    spec.HasRead sure values (spec.readInputs values) spec.inputs.slots.length := by
  -- By induction on how many have been read, which is the length of what is taken.
  have first (n : Nat) (le : n ≤ spec.inputs.slots.length) :
      spec.HasRead sure values ((spec.inputs.slots.take n).foldl (spec.readInput values) ∅) n := by
    induction n with
    | zero => exact .start spec sure values
    | succ n ih =>
      have here : spec.inputs.slots[n]? = some spec.inputs.slots[n] := List.getElem?_eq_getElem le
      rw [List.take_add_one, here, List.foldl_append]
      exact (ih (Nat.le_of_succ_le le)).next here
  have all := first _ (le_refl _)
  rwa [List.take_length] at all

theorem get?_readInputs (spec : StageSpec) (values : Dict Value) (key : String) :
    (spec.readInputs values).get? key =
      if key ∈ spec.inputs.names then values.get? (spec.inputName key) else none := by
  have reads := spec.hasRead_readInputs (fun _ => True) values
  split
  next declared =>
    obtain ⟨slot, member, rfl⟩ := List.mem_map.mp declared
    exact reads.get? (List.getElem?_length _) member trivial
  next undeclared =>
    cases found : (spec.readInputs values).get? key with
    | none => rfl
    | some v => exact absurd (reads.within key v found).1 undeclared

/-- A stage sees the same in values that agree on the names that it reads. -/
theorem readInputs_congr {a b : Dict Value} (same : ∀ slot ∈ spec.inputs.slots,
      a.get? (spec.inputName slot.name) = b.get? (spec.inputName slot.name)) :
    spec.readInputs a = spec.readInputs b := by
  refine Dict.ext_get? (fun key => ?_)
  rw [get?_readInputs, get?_readInputs]
  split
  next declared =>
    obtain ⟨slot, member, rfl⟩ := List.mem_map.mp declared
    exact same slot member
  next => rfl

theorem bindInputs_congr {a b : Dict Value} (same : ∀ slot ∈ spec.inputs.slots,
      a.get? (spec.inputName slot.name) = b.get? (spec.inputName slot.name)) :
    spec.bindInputs a = spec.bindInputs b := by
  rw [bindInputs, readInputs_congr same, bindInputs]

/-- If all slots are sure to find their values, it makes no difference that they are read one after
the other. -/
theorem HasRead.eq_readInputs (h : spec.HasRead (fun _ => True) values read count)
    (all : spec.inputs.slots[count]? = none) : read = spec.readInputs values := by
  refine Dict.ext_get? (fun key => ?_)
  rw [get?_readInputs]
  split
  next declared =>
    obtain ⟨slot, member, rfl⟩ := List.mem_map.mp declared
    exact h.get? all member trivial
  next undeclared =>
    cases found : read.get? key with
    | none => rfl
    | some v => exact absurd (h.within key v found).1 undeclared

/-! What is bound of what has been read. -/

/-- What is supplied for the inputs of a stage is what there is under the names that they read,
unless it is null. -/
theorem contains_supplied {slot : String} :
    (spec.inputs.typedSupply (spec.readInputs values)).contains slot = true ↔
      slot ∈ spec.inputs.names ∧
        ∃ v, values.get? (spec.inputName slot) = some v ∧ v.isNull = false := by
  rw [Dict.contains, Contract.get?_typedSupply, get?_readInputs]
  by_cases declared : slot ∈ spec.inputs.names
  · simp [Contract.contains_iff.mpr declared, declared, Option.isSome_filter, Option.any_eq_true]
  · simp [declared]

/-- What is reported as missing is required, and nothing or null has been read for it. -/
theorem missingRequired_read {name : String}
    (missing : .missingRequired name ∈ (spec.inputs.bindValues read).violations) :
    ∃ slot ∈ spec.inputs.slots, slot.isRequired = true ∧ slot.name = name ∧
      ∀ v, read.get? slot.name = some v → v = .null := by
  obtain ⟨slot, member, required, absent, rfl⟩ := Contract.missingRequired_mem.mp missing
  refine ⟨slot, member, required, rfl, ?_⟩
  have declared : spec.inputs.contains slot.name = true :=
    Contract.contains_iff.mpr (List.mem_map_of_mem member)
  intro v found
  cases v with
  | null => rfl
  | _ => simp [Dict.contains, Contract.get?_typedSupply, declared, found, Value.isNull] at absent

/-- A slot is bound to what has been read for it, or to its default where that is nothing or null. -/
theorem get?_of_bindRead (bound : spec.bindRead read = .ok inputs) {slot : String}
    (declared : slot ∈ spec.inputs.names) : inputs.get? slot =
      ((read.get? slot).filter (fun v => !v.isNull)).or (spec.inputs.fallback? slot) := by
  have same : inputs = spec.inputs.boundValues (spec.inputs.typedSupply read) := by
    unfold bindRead Binding.toExcept at bound
    split at bound
    next ok =>
      cases bound
      split at ok
      · cases ok
        rfl
      · cases ok
    next => cases bound
  rw [same, Contract.get?_boundValues, Contract.get?_typedSupply,
    if_pos (Contract.contains_iff.mpr declared)]
  cases (read.get? slot).filter (fun v => !v.isNull) with
  | none => rfl
  | some v => rfl

end StageSpec

/-! ### Outputs -/

/-- Whether no two outputs of a stage go under one name. -/
def StageSpec.Separates (spec : StageSpec) (outputs : Dict Value) : Prop :=
  ∀ e ∈ outputs.toList, ∀ e' ∈ outputs.toList,
    spec.outputName e.1 = spec.outputName e'.1 → e.1 = e'.1

namespace Workspace

/-- Whether only declared outputs have been set. -/
def IsDeclared (w : Workspace) : Prop :=
  ∀ slot, w.outputs.contains slot = true → w.spec.outputs.contains slot = true

theorem isDeclared_start (id : String) (spec : StageSpec) (inputs : Dict Value) :
    (start id spec inputs).IsDeclared := by
  intro slot set
  simp [start, Dict.contains] at set

/-- An output that is accepted is declared and of its type. -/
theorem setOutput_eq_ok {w w' : Workspace} {slot : String} {value : Value}
    (h : w.setOutput slot value = .ok w') :
    (∃ declared, w.spec.outputs.get? slot = some declared ∧
      value.type.satisfies declared.type = true) ∧
      w' = { w with outputs := w.outputs.insert slot value } := by
  unfold setOutput at h
  split at h
  next => cases h
  next declared found =>
    split at h
    next => cases h
    next type =>
      split at h
      next => cases h
      next =>
        cases h
        exact ⟨⟨declared, found, by simpa using type⟩, rfl⟩

end Workspace

namespace Conduct

/-- An output that is refused leaves the workspace alone. -/
theorem set_cases (w : Workspace) (setting : String × Value) : set w setting = w ∨
    (∃ declared, w.spec.outputs.get? setting.1 = some declared ∧
      setting.2.type.satisfies declared.type = true) ∧
      set w setting = { w with outputs := w.outputs.insert setting.1 setting.2 } := by
  unfold set
  split
  next accepted => exact .inr (Workspace.setOutput_eq_ok accepted)
  next => exact .inl rfl

/-- What holds of a workspace, and goes on to hold when an output is accepted, holds of what a stage
makes of it. -/
theorem play_induction {P : Workspace → Prop} {c : Conduct} {w w' : Workspace}
    (accept : ∀ (w : Workspace) (slot : String) (value : Value) (declared : Slot), P w →
      w.spec.outputs.get? slot = some declared → value.type.satisfies declared.type = true →
      P { w with outputs := w.outputs.insert slot value })
    (holds : P w) (h : c.play w = .ok w') : P w' := by
  have settings (l : List (String × Value)) (w : Workspace) (holds : P w) : P (l.foldl set w) := by
    induction l generalizing w with
    | nil => exact holds
    | cons setting rest ih =>
      rw [List.foldl_cons]
      apply ih
      rcases set_cases w setting with same | ⟨⟨declared, found, type⟩, accepted⟩
      · rwa [same]
      · rw [accepted]
        exact accept w setting.1 setting.2 declared holds found type
  unfold play at h
  split at h
  next => cases h
  next =>
    cases h
    exact settings c.settings w holds

/-- Whatever a stage does with its workspace, it stays the same stage and sets what it has
declared. -/
theorem play_spec {c : Conduct} {w w' : Workspace} (declared : w.IsDeclared)
    (h : c.play w = .ok w') : w'.spec = w.spec ∧ w'.IsDeclared := by
  refine play_induction (P := fun w' => w'.spec = w.spec ∧ w'.IsDeclared) ?_ ⟨rfl, declared⟩ h
  rintro w' slot value there ⟨same, declared⟩ found -
  refine ⟨same, ?_⟩
  intro key set
  rw [Dict.contains, Dict.get?_insert] at set
  split at set
  next eq => rw [← eq, Contract.contains, found]; rfl
  next => exact declared key set

end Conduct

namespace Workspace

/-- A slot is left as it is, or its default joins the outputs. -/
theorem completed_cons_cases {slot : Slot} {rest : List Slot} {outputs all : Dict Value}
    (h : completed (slot :: rest) outputs = .ok all) :
    (outputs.contains slot.name = true ∨ slot.isAssured = false) ∧
        completed rest outputs = .ok all ∨
      ∃ value, slot.default? = some value ∧
        completed rest (outputs.insert slot.name value) = .ok all := by
  rw [completed] at h
  split at h
  next set => exact .inl ⟨.inl set, h⟩
  next =>
    split at h
    next value default => exact .inr ⟨value, default, h⟩
    next none =>
      split at h
      next => cases h
      next optional => exact .inl ⟨.inr (by simp [Slot.isAssured, none, optional]), h⟩

/-- Defaults are added for declared slots only. -/
theorem contains_completed {slots : List Slot} {outputs all : Dict Value}
    (h : completed slots outputs = .ok all) {key : String} (there : all.contains key = true) :
    outputs.contains key = true ∨ ∃ slot ∈ slots, slot.name = key := by
  induction slots generalizing outputs with
  | nil =>
    cases h
    exact .inl there
  | cons slot rest ih =>
    rcases completed_cons_cases h with ⟨-, kept⟩ | ⟨value, -, grown⟩
    · exact (ih kept).imp_right (fun ⟨s, member, same⟩ => ⟨s, List.mem_cons_of_mem _ member, same⟩)
    · rcases ih grown with before | ⟨s, member, same⟩
      · rw [Dict.contains, Dict.get?_insert] at before
        split at before
        next eq => exact .inr ⟨slot, List.mem_cons_self, eq⟩
        next => exact .inl before
      · exact .inr ⟨s, List.mem_cons_of_mem _ member, same⟩

theorem exists_slot_of_contains {c : Contract} {key : String} (h : c.contains key = true) :
    ∃ slot, c.get? key = some slot ∧ slot ∈ c.slots ∧ slot.name = key := by
  obtain ⟨slot, found⟩ := Option.isSome_iff_exists.mp h
  exact ⟨slot, found, List.mem_of_find?_eq_some found, by simpa using List.find?_some found⟩

/-- A stage that has succeeded leaves outputs that it has declared, be they set or by default. -/
theorem completed_declared {w : Workspace} {outputs : Dict Value} (declared : w.IsDeclared)
    (h : completed w.spec.outputs.slots w.outputs = .ok outputs) :
    ∀ e ∈ outputs.toList, e.1 ∈ w.spec.outputs.names := by
  intro e member
  have there : outputs.contains e.1 = true := by
    rw [Dict.contains, Dict.mem_toList.mp member]
    rfl
  rcases contains_completed h there with set | ⟨slot, inside, same⟩
  · exact Contract.contains_iff.mp (declared e.1 set)
  · exact List.mem_map.mpr ⟨slot, inside, same⟩

/-- What a stage delivers are values of outputs that it has declared, each of them once. -/
theorem delivery_declared {w : Workspace} {writes : List Write} (declared : w.IsDeclared)
    (h : w.delivery = .ok writes) : ∃ outputs : Dict Value,
      writes = outputs.toList.map (fun e => write w.spec e.1 e.2) ∧
        ∀ e ∈ outputs.toList, e.1 ∈ w.spec.outputs.names := by
  unfold delivery at h
  split at h
  next => cases h
  next all complete =>
    cases h
    exact ⟨all, rfl, completed_declared declared complete⟩

theorem delivery_nodup {spec : StageSpec} {outputs : Dict Value}
    (separate : spec.Separates outputs) :
    ((outputs.toList.map (fun e => write spec e.1 e.2)).map (·.name)).Nodup := by
  rw [List.map_map]
  refine List.Nodup.map_on ?_ (List.Nodup.of_map Prod.fst outputs.keys_nodup)
  rintro ⟨key, value⟩ inside ⟨key', value'⟩ inside' same
  have one : key = key' := separate _ inside _ inside' same
  subst one
  have found := Dict.mem_toList.mp inside
  rw [Dict.mem_toList.mp inside'] at found
  rw [Option.some.inj found]

/-- What a plain stage delivers goes under names that it owns, each of them once, and gives way to
nothing. -/
theorem delivery_plain {w : Workspace} {writes : List Write} (plain : w.spec.IsPlain)
    (distinct : w.spec.explicitNames.Nodup) (declared : w.IsDeclared)
    (h : w.delivery = .ok writes) :
    (∀ x ∈ writes, x.internal = false ∧ x.name ∈ w.spec.explicitNames) ∧
      (writes.map (·.name)).Nodup := by
  obtain ⟨outputs, rfl, slots⟩ := delivery_declared declared h
  rw [plain.explicitNames] at distinct ⊢
  constructor
  · intro x member
    obtain ⟨⟨key, value⟩, inside, rfl⟩ := List.mem_map.mp member
    obtain ⟨slot, found, there, same⟩ :=
      exists_slot_of_contains (Contract.contains_iff.mpr (slots _ inside))
    refine ⟨?_, List.mem_map.mpr ⟨slot, there, by rw [same]; rfl⟩⟩
    simp [write, found, plain.outputs slot there]
  -- Two outputs of one name would be two of one slot, and a slot has one value.
  · refine delivery_nodup (fun e inside e' inside' same => ?_)
    obtain ⟨slot, there, eq⟩ := List.mem_map.mp (slots e inside)
    obtain ⟨slot', there', eq'⟩ := List.mem_map.mp (slots e' inside')
    rw [← eq, ← eq'] at same ⊢
    exact congrArg Slot.name (List.inj_on_of_nodup_map distinct there there' same)

end Workspace

/-! ### Keeping outputs -/

namespace StageSpec

/-- Values along with the outputs of a stage, each under the name that its slot writes. -/
def keep (spec : StageSpec) (outputs values : Dict Value) : Dict Value :=
  outputs.toList.foldl (fun values e => values.insert (spec.outputName e.1) e.2) values

variable {spec : StageSpec} {outputs values : Dict Value} {name : String}

private theorem get?_keep (separate : spec.Separates outputs) : (spec.keep outputs values).get? name =
    (Entries.find? (outputs.toList.map (fun e => (spec.outputName e.1, e.2))) name).or
      (values.get? name) := by
  have distinct := Workspace.delivery_nodup separate
  rw [List.map_map] at distinct
  have found := Dict.get?_foldl_insert
    (outputs.toList.map (fun e => (spec.outputName e.1, e.2))) values name
    (by rwa [List.map_map])
  rwa [List.foldl_map] at found

theorem get?_keep_of_not_mem (separate : spec.Separates outputs)
    (other : name ∉ outputs.keys.map spec.outputName) :
    (spec.keep outputs values).get? name = values.get? name := by
  rw [get?_keep separate, Entries.find?_eq_none.mpr, Option.none_or]
  intro entry member same
  obtain ⟨e, inside, rfl⟩ := List.mem_map.mp member
  exact other (List.mem_map.mpr ⟨e.1, List.mem_map_of_mem inside, same⟩)

/-- What is found under the name of an output is its value. -/
theorem get?_keep_of_mem (separate : spec.Separates outputs)
    (mine : name ∈ outputs.keys.map spec.outputName) {value : Value} :
    (spec.keep outputs values).get? name = some value ↔
      ∃ slot, outputs.get? slot = some value ∧ spec.outputName slot = name := by
  have distinct := Workspace.delivery_nodup separate
  rw [List.map_map] at distinct
  have among : Entries.find? (outputs.toList.map (fun e => (spec.outputName e.1, e.2))) name =
      some value ↔ ∃ slot, outputs.get? slot = some value ∧ spec.outputName slot = name := by
    rw [Entries.find?_eq_some_iff (by rwa [List.map_map]), List.mem_map]
    constructor
    · rintro ⟨⟨slot, v⟩, inside, same⟩
      cases same
      exact ⟨slot, Dict.mem_toList.mp inside, rfl⟩
    · rintro ⟨slot, found, rfl⟩
      exact ⟨(slot, value), Dict.mem_toList.mpr found, rfl⟩
  rw [get?_keep separate, Option.or_eq_some_iff, among]
  refine or_iff_left ?_
  rintro ⟨none, -⟩
  obtain ⟨slot, inside, rfl⟩ := List.mem_map.mp mine
  obtain ⟨e, there, rfl⟩ := List.mem_map.mp inside
  exact Entries.find?_eq_none.mp none _ (List.mem_map_of_mem there) rfl

end StageSpec

end Printworks
