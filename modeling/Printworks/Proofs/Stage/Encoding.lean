import Printworks.Proofs.Value.Encoding
import Printworks.Stage.Spec

/-!
# What the document of a stage keeps

The document of a stage tells everything that the stage declares, apart from defaults with numbers
that are not finite. What holds of a stage whatever its defaults are is therefore known from its
document.
-/

namespace Printworks

/-! ### Replacing defaults -/

def SlotKind.mapDefault (f : Value → Value) (k : SlotKind) : SlotKind :=
  match k with
  | required => required
  | hasDefault value => hasDefault (f value)
  | internal => internal

namespace Slot

variable (f : Value → Value) (s : Slot)

def mapDefault : Slot := { s with kind := s.kind.mapDefault f }

@[simp] theorem mapDefault_name : (s.mapDefault f).name = s.name := rfl
@[simp] theorem mapDefault_type : (s.mapDefault f).type = s.type := rfl
@[simp] theorem mapDefault_oneOf : (s.mapDefault f).oneOf = s.oneOf := rfl

@[simp] theorem mapDefault_isInternal : (s.mapDefault f).isInternal = s.isInternal := by
  obtain ⟨name, type, kind, requires, oneOf⟩ := s
  cases kind <;> rfl

@[simp] theorem mapDefault_isRequired : (s.mapDefault f).isRequired = s.isRequired := by
  obtain ⟨name, type, kind, requires, oneOf⟩ := s
  cases kind <;> rfl

@[simp] theorem mapDefault_id : s.mapDefault id = s := by
  obtain ⟨name, type, kind, requires, oneOf⟩ := s
  cases kind <;> rfl

end Slot

namespace Contract

/-- The defaults that the slots of a contract have. -/
def defaults (c : Contract) : List Value := c.slots.filterMap Slot.default?

def mapDefaults (f : Value → Value) (c : Contract) : Contract := ⟨c.slots.map (·.mapDefault f)⟩

@[simp] theorem mapDefaults_id (c : Contract) : c.mapDefaults id = c := by
  simp [mapDefaults]

@[simp] theorem mapDefaults_names (f : Value → Value) (c : Contract) : (c.mapDefaults f).names = c.names := by
  simp [mapDefaults, names]

@[simp] theorem mapDefaults_get? (f : Value → Value) (c : Contract) (name : String) :
    (c.mapDefaults f).get? name = (c.get? name).map (·.mapDefault f) := by
  simp only [mapDefaults, get?, List.find?_map]
  rfl

@[simp] theorem mapDefaults_contains (f : Value → Value) (c : Contract) (name : String) :
    (c.mapDefaults f).contains name = c.contains name := by
  simp [contains]

end Contract

namespace StageSpec

def defaults (s : StageSpec) : List Value := s.inputs.defaults ++ s.outputs.defaults

def mapDefaults (f : Value → Value) (s : StageSpec) : StageSpec :=
  { s with inputs := s.inputs.mapDefaults f, outputs := s.outputs.mapDefaults f }

@[simp] theorem mapDefaults_id (s : StageSpec) : s.mapDefaults id = s := by
  simp [mapDefaults]

end StageSpec

/-! ### Documents -/

theorem Json.texts_inj {items items' : List String} (same : Json.texts items = Json.texts items') :
    items = items' := by
  rw [Json.texts, Json.texts, Json.array.injEq] at same
  refine List.map_injective_iff.mpr ?_ same
  intro a b texts
  cases texts
  rfl

theorem Json.listEntry?_inj {name : String} {items items' : List String}
    (same : Json.listEntry? name items = Json.listEntry? name items') : items = items' := by
  cases items with
  | nil =>
    cases items' with
    | nil => rfl
    | cons _ _ => cases same
  | cons item rest =>
    cases items' with
    | nil => cases same
    | cons item' rest' =>
      have parts := congrArg (Option.map Prod.snd) same
      exact Json.texts_inj (Option.some.inj parts)

theorem Json.ofNames_inj {d d' : Dict String} (same : Json.ofNames d = Json.ofNames d') : d = d' := by
  apply Dict.ext
  simp only [Json.ofNames, Json.ofDict, Dict.toList, Dict.map, Json.object.injEq] at same
  refine List.map_injective_iff.mpr ?_ same
  rintro ⟨name, value⟩ ⟨name', value'⟩ entries
  cases entries
  rfl

theorem Json.isFinite_texts (items : List String) : (Json.texts items).IsFinite := by
  apply Json.areFinite_iff.mpr
  simp [Json.IsFinite]

theorem Json.isFinite_ofNames (d : Dict String) : (Json.ofNames d).IsFinite := by
  apply Json.areFiniteEntries_iff.mpr
  intro entry member
  obtain ⟨⟨name, value⟩, -, rfl⟩ := List.mem_map.mp member
  trivial

theorem ValueType.encode_inj {t t' : ValueType} (same : t.encode = t'.encode) : t = t' := by
  have read (t : ValueType) : ofName? t.name = some t := by cases t <;> rfl
  have names : t.name = t'.name := Json.text.inj same
  have both := read t
  rw [names, read] at both
  exact (Option.some.inj both).symm

variable {f : Value → Value}

/-- Whether replacing some values does not tell apart what documents do not. -/
def Respects (f : Value → Value) (values : List Value) : Prop :=
  ∀ v ∈ values, ∀ w, v.encode = w.encode → f v = f w

theorem Respects.append {values more : List Value} :
    Respects f (values ++ more) ↔ Respects f values ∧ Respects f more :=
  List.forall_mem_append

theorem respects_const (value : Value) (values : List Value) : Respects (fun _ => value) values :=
  fun _ _ _ _ => rfl

/-- The document of a value whose numbers are finite tells it apart from all others. -/
theorem respects_id {values : List Value} (finite : ∀ v ∈ values, v.IsFinite) :
    Respects id values :=
  fun v member w same => Value.encode_inj v w (finite v member) same

theorem SlotKind.encode_cases {k k' : SlotKind} (same : k.encode = k'.encode) :
    k = k' ∨ ∃ v v', k = .hasDefault v ∧ k' = .hasDefault v' ∧ v.encode = v'.encode := by
  cases k with
  | required =>
    cases k' with
    | required => exact .inl rfl
    | _ => simp [encode] at same
  | internal =>
    cases k' with
    | internal => exact .inl rfl
    | _ => simp [encode] at same
  | hasDefault v =>
    cases k' with
    | hasDefault v' =>
      simp only [encode, Json.object.injEq, List.cons.injEq, Prod.mk.injEq, true_and,
        and_true] at same
      exact .inr ⟨v, v', rfl, rfl, same⟩
    | _ => simp [encode] at same

namespace Slot

theorem encode_parts {s s' : Slot} (same : s.encode = s'.encode) : s.name = s'.name ∧
    s.type = s'.type ∧ s.kind.encode = s'.kind.encode ∧ s.requires = s'.requires ∧
      s.oneOf = s'.oneOf := by
  have named (s : Slot) : Json.AreNamed ["name", "type", "kind", "requires", "one_of"]
      [some ("name", .text s.name), some ("type", s.type.encode), some ("kind", s.kind.encode),
        Json.listEntry? "requires" s.requires, Json.entry? "one_of" (s.oneOf.map .text)] := by
    have tail := Json.areNamed_optional "one_of" (s.oneOf.map .text) .nil
    refine .some _ _ (.some _ _ (.some _ _ ?_))
    unfold Json.listEntry?
    split
    · exact tail.none _
    · exact tail.some _ _
  have parts := Json.record_inj (by decide) (named s) (named s') same
  simp only [List.cons.injEq, Option.some.injEq, Prod.mk.injEq, Json.text.injEq, true_and,
    and_true] at parts
  obtain ⟨name, type, kind, requires, oneOf⟩ := parts
  exact ⟨name, ValueType.encode_inj type, kind, Json.listEntry?_inj requires,
    Json.entry?_text_inj oneOf⟩

theorem mapDefault_eq_of_encode {s s' : Slot} (respects : Respects f s.default?.toList)
    (same : s.encode = s'.encode) : s.mapDefault f = s'.mapDefault f := by
  obtain ⟨name, type, kind, requires, oneOf⟩ := s
  obtain ⟨name', type', kind', requires', oneOf'⟩ := s'
  obtain ⟨rfl, rfl, kinds, rfl, rfl⟩ := encode_parts same
  obtain rfl | ⟨v, v', rfl, rfl, values⟩ := SlotKind.encode_cases kinds
  · rfl
  · have replaced := respects v List.mem_cons_self v' values
    simp only [mapDefault, SlotKind.mapDefault, replaced]

theorem isFinite_encode (s : Slot) : s.encode.IsFinite := by
  have kind : s.kind.encode.IsFinite := by
    cases s.kind with
    | required => exact ⟨trivial, trivial⟩
    | internal => exact ⟨trivial, trivial⟩
    | hasDefault v => exact ⟨trivial, v.isFinite_encode, trivial⟩
  apply Json.areFiniteEntries_iff.mpr
  intro entry member
  simp only [List.mem_filterMap, List.mem_cons, List.not_mem_nil, or_false, id_eq,
    exists_eq_right] at member
  rcases member with name | type | same | requires | oneOf
  · cases name
    trivial
  · cases type
    trivial
  · cases same
    exact kind
  · unfold Json.listEntry? at requires
    split at requires
    · cases requires
    · cases requires
      exact Json.isFinite_texts _
  · cases group : s.oneOf with
    | none => simp [group, Json.entry?] at oneOf
    | some _ =>
      simp only [group, Option.map_some, Json.entry?, Option.some.injEq] at oneOf
      rw [oneOf]
      trivial

end Slot

namespace Contract

theorem mapDefaults_eq_of_encode {c c' : Contract} (respects : Respects f c.defaults)
    (same : c.encode = c'.encode) : c.mapDefaults f = c'.mapDefaults f := by
  obtain ⟨slots⟩ := c
  obtain ⟨slots'⟩ := c'
  simp only [encode, Json.array.injEq] at same
  simp only [mapDefaults, mk.injEq]
  induction slots generalizing slots' with
  | nil => rw [List.map_eq_nil_iff.mp same.symm]
  | cons slot rest ih =>
    cases slots' with
    | nil => cases same
    | cons slot' rest' =>
      obtain ⟨heads, tails⟩ := List.cons.inj same
      have first : Respects f slot.default?.toList := by
        intro v member
        apply respects v
        exact List.mem_filterMap.mpr ⟨slot, List.mem_cons_self, Option.mem_toList.mp member⟩
      have others : Respects f (Contract.mk rest).defaults := by
        intro v member
        obtain ⟨s, inside, found⟩ := List.mem_filterMap.mp member
        exact respects v (List.mem_filterMap.mpr ⟨s, List.mem_cons_of_mem _ inside, found⟩)
      rw [List.map_cons, List.map_cons, Slot.mapDefault_eq_of_encode first heads,
        ih others rest' tails]

theorem isFinite_encode (c : Contract) : c.encode.IsFinite := by
  apply Json.areFinite_iff.mpr
  intro item member
  obtain ⟨slot, -, rfl⟩ := List.mem_map.mp member
  exact slot.isFinite_encode

end Contract

namespace StageSpec

theorem mapDefaults_eq_of_encode {s s' : StageSpec} (respects : Respects f s.defaults)
    (same : s.encode = s'.encode) : s.mapDefaults f = s'.mapDefaults f := by
  obtain ⟨name, inputs, outputs, inputMapping, outputMapping⟩ := s
  obtain ⟨name', inputs', outputs', inputMapping', outputMapping'⟩ := s'
  simp only [encode, Json.object.injEq, List.cons.injEq, Prod.mk.injEq, Json.text.injEq, true_and,
    and_true] at same
  obtain ⟨rfl, sameInputs, sameOutputs, reads, writes⟩ := same
  obtain ⟨first, second⟩ := Respects.append.mp respects
  rw [mapDefaults, mapDefaults, Contract.mapDefaults_eq_of_encode first sameInputs,
    Contract.mapDefaults_eq_of_encode second sameOutputs, Json.ofNames_inj reads,
    Json.ofNames_inj writes]

theorem isFinite_encode (s : StageSpec) : s.encode.IsFinite :=
  ⟨trivial, s.inputs.isFinite_encode, s.outputs.isFinite_encode,
    Json.isFinite_ofNames _, Json.isFinite_ofNames _, trivial⟩

end StageSpec

end Printworks
