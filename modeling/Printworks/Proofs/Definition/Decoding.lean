import Printworks.Definition.Basic
import Printworks.Proofs.Access
import Printworks.Proofs.Json.Canonical
import Printworks.Proofs.Stage.Encoding
import Printworks.Proofs.Value.Decoding

/-!
# Reading declarations and definitions back

Slots, contracts and stages are read back from the documents that are written of them, with their
defaults, if the numbers in these are finite. What has been read as the definition of a template can be
written and read once more: the defaults in it are kept as plain documents, which have been put in order
when they were read.
-/

namespace Printworks

/-! ### Slots, contracts and stages -/

theorem SlotKind.decode?_encode {k : SlotKind}
    (encodable : ∀ v, k = .hasDefault v → v.IsEncodable) : decode? k.encode = some k := by
  cases k with
  | required => rfl
  | internal => rfl
  | hasDefault v =>
    -- The default stands before what says that there is one, so its tags are read loosely.
    have loosely := Value.decodeAs?_encode true v (encodable v rfl).finite (encodable v rfl).ordered
    simp [encode, decode?, Json.part?, Json.bareName?, Json.alternative?, ofParts?, loosely]

namespace Slot

theorem areNamed (s : Slot) : Json.AreNamed ["name", "type", "kind", "requires", "one_of"]
    [some ("name", .text s.name), some ("type", s.type.encode), some ("kind", s.kind.encode),
      Json.listEntry? "requires" s.requires, Json.entry? "one_of" (s.oneOf.map .text)] :=
  .some _ _ (.some _ _ (.some _ _ (Json.areNamed_list _ _ (Json.areNamed_optional _ _ .nil))))

theorem decode?_encode {s : Slot} (encodable : ∀ v, s.default? = some v → v.IsEncodable) :
    decode? s.encode = some s := by
  rw [decode?, encode, Json.fields?_record (by decide) s.areNamed]
  generalize fields : Json.Fields.mk true _ = f
  have name : f.required 0 Json.text? = some s.name := by rw [← fields]; rfl
  have type : f.required 1 ValueType.decode? = some s.type := by
    rw [← fields]
    exact s.type.decode?_encode
  have kind : f.required 2 SlotKind.decode? = some s.kind := by
    rw [← fields]
    exact SlotKind.decode?_encode (fun v kind => encodable v (by rw [default?, kind]))
  have requires : f.orDefault 3 [] (Json.list? Json.text?) = some s.requires :=
    Json.orDefault_list "requires" (by rw [← fields]; rfl)
  have oneOf : f.optional 4 Json.text? = some s.oneOf :=
    Json.optional_text (by rw [← fields]; exact Json.entry?_map_snd _ _)
  simp [name, type, kind, requires, oneOf]

end Slot

theorem Contract.decode?_encode {c : Contract} (encodable : ∀ v ∈ c.defaults, v.IsEncodable) :
    decode? c.encode = some c := by
  have slots : Json.list? Slot.decode? c.encode = some c.slots := by
    apply Json.list?_map
    intro slot member
    apply Slot.decode?_encode
    exact fun v default => encodable v (List.mem_filterMap.mpr ⟨slot, member, default⟩)
  rw [decode?, slots, Option.map_some]

theorem StageSpec.decode?_encode {s : StageSpec} (encodable : ∀ v ∈ s.defaults, v.IsEncodable) :
    decode? s.encode = some s := by
  obtain ⟨inputs, outputs⟩ := List.forall_mem_append.mp encodable
  have found : s.encode.fields? ["name", "inputs", "outputs", "input_mapping", "output_mapping"] =
      some ⟨true, [some (.text s.name), some s.inputs.encode, some s.outputs.encode,
        some (.ofNames s.inputMapping), some (.ofNames s.outputMapping)]⟩ := by rfl
  simp [decode?, found, Json.Fields.required, Json.Fields.orDefault, Json.Fields.part, Json.text?,
    Contract.decode?_encode inputs, Contract.decode?_encode outputs, Json.map?_ofNames]

/-! ### Definitions -/

theorem Presence.decode?_encode (p : Presence) : decode? p.encode = some p := by
  cases p <;> rfl

namespace SlotDefinition

/-- Whether a default, if there is one, is a document as it is kept. -/
def IsKept (d : SlotDefinition) : Prop := ∀ j, d.default = some j → j.canonical = j ∧ j ≠ .null

theorem isKept_of_decode? {j : Json} {d : SlotDefinition} (read : decode? j = some d) : d.IsKept := by
  simp only [decode?, Option.bind_eq_bind, Option.bind_eq_some_iff] at read
  obtain ⟨f, -, name, -, type, -, presence, -, default, said, requires, -, oneOf, -, eq⟩ := read
  cases eq
  rintro j rfl
  obtain ⟨k, some_, same⟩ := Json.exists_of_optional said
  cases same
  exact ⟨k.canonical_canonical, Json.canonical_ne_null some_⟩

theorem areNamed (d : SlotDefinition) : Json.AreNamed partNames
    [some ("name", .text d.name), some ("type", .text d.type),
      Json.entry? "kind" (d.presence.map Presence.encode), Json.entry? "default" d.default,
      Json.listEntry? "requires" d.requires, Json.entry? "one_of" (d.oneOf.map .text)] :=
  .some _ _ (.some _ _ (Json.areNamed_optional _ _ (Json.areNamed_optional _ _
    (Json.areNamed_list _ _ (Json.areNamed_optional _ _ .nil)))))

theorem decode?_encode {d : SlotDefinition} (kept : d.IsKept) : decode? d.encode = some d := by
  rw [decode?, encode, Json.fields?_record (by decide) d.areNamed]
  generalize fields : Json.Fields.mk true _ = f
  have name : f.required 0 Json.text? = some d.name := by rw [← fields]; rfl
  have type : f.orDefault 1 "any" Json.text? = some d.type := by rw [← fields]; rfl
  have presence : f.optional 2 Presence.decode? = some d.presence :=
    Json.optional_map Presence.encode (by rw [← fields]; exact Json.entry?_map_snd _ _)
      (fun p _ => ⟨p.decode?_encode, nofun⟩)
  have default : f.optional 3 (fun j => some j.canonical) = some d.default := by
    refine Json.optional_map id ?_ ?_
    · rw [← fields, Option.map_id]
      exact Json.entry?_map_snd _ _
    · intro j said
      obtain ⟨same, some_⟩ := kept j said
      exact ⟨congrArg some same, some_⟩
  have requires : f.orDefault 4 [] (Json.list? Json.text?) = some d.requires :=
    Json.orDefault_list "requires" (by rw [← fields]; rfl)
  have oneOf : f.optional 5 Json.text? = some d.oneOf :=
    Json.optional_text (by rw [← fields]; exact Json.entry?_map_snd _ _)
  simp [name, type, presence, default, requires, oneOf]

end SlotDefinition

namespace StageDefinition

def IsKept (d : StageDefinition) : Prop := ∀ slot ∈ d.inputs ++ d.outputs, slot.IsKept

theorem isKept_of_decode? {j : Json} {d : StageDefinition} (read : decode? j = some d) :
    d.IsKept := by
  simp only [decode?, Option.bind_eq_bind, Option.bind_eq_some_iff] at read
  obtain ⟨f, -, name, -, kind, -, inputs, reads, outputs, writes, inputMapping, -, outputMapping, -,
    eq⟩ := read
  cases eq
  intro slot member
  rcases List.mem_append.mp member with member | member
  · obtain ⟨item, own⟩ := Json.exists_of_orDefault reads member
    exact SlotDefinition.isKept_of_decode? own
  · obtain ⟨item, own⟩ := Json.exists_of_orDefault writes member
    exact SlotDefinition.isKept_of_decode? own

theorem areNamed_mapping (name : String) (mapping : Dict String) {names : List String}
    {parts : List (Option (String × Json))} (rest : Json.AreNamed names parts) :
    Json.AreNamed (name :: names) ( mappingEntry? name mapping :: parts) := by
  unfold mappingEntry?
  split
  · exact rest.none name
  · exact rest.some name _

theorem areNamed (d : StageDefinition) : Json.AreNamed (parts.map (·.1))
    [some ("name", .text d.name), some ("kind", .text d.kind),
      some ("inputs", .array (d.inputs.map SlotDefinition.encode)),
      some ("outputs", .array (d.outputs.map SlotDefinition.encode)),
      mappingEntry? "input_mapping" d.inputMapping,
      mappingEntry? "output_mapping" d.outputMapping] :=
  .some _ _ (.some _ _ (.some _ _ (.some _ _
    (areNamed_mapping _ _ (areNamed_mapping _ _ .nil)))))

/-- A mapping that is left out if it is empty is the default then. -/
theorem orDefault_mapping (name : String) {f : Json.Fields} {i : Nat} {mapping : Dict String}
    (there : f.part i = ( mappingEntry? name mapping).map Prod.snd) :
    f.orDefault i ∅ (Json.map? Json.text?) = some mapping := by
  rw [Json.Fields.orDefault, there, mappingEntry?]
  split
  next none =>
    split at none
    next empty =>
      have same : mapping = ∅ := Dict.ext (List.isEmpty_iff.mp empty)
      rw [same]
    next => cases none
  next j some_ =>
    split at some_
    next => cases some_
    next =>
      cases some_
      exact Json.map?_ofNames mapping

theorem decode?_encode {d : StageDefinition} (kept : d.IsKept) : decode? d.encode = some d := by
  obtain ⟨reads, writes⟩ := List.forall_mem_append.mp kept
  rw [decode?, encode, Json.fields?_record (by decide) d.areNamed]
  generalize fields : Json.Fields.mk true _ = f
  have name : f.required 0 Json.text? = some d.name := by rw [← fields]; rfl
  have kind : f.required 1 Json.text? = some d.kind := by rw [← fields]; rfl
  have inputs : f.orDefault 2 [] (Json.list? SlotDefinition.decode?) = some d.inputs := by
    rw [← fields]
    exact Json.list?_map (fun slot member => SlotDefinition.decode?_encode (reads slot member))
  have outputs : f.orDefault 3 [] (Json.list? SlotDefinition.decode?) = some d.outputs := by
    rw [← fields]
    exact Json.list?_map (fun slot member => SlotDefinition.decode?_encode (writes slot member))
  have inputMapping : f.orDefault 4 ∅ (Json.map? Json.text?) = some d.inputMapping :=
    orDefault_mapping "input_mapping" (by rw [← fields]; rfl)
  have outputMapping : f.orDefault 5 ∅ (Json.map? Json.text?) = some d.outputMapping :=
    orDefault_mapping "output_mapping" (by rw [← fields]; rfl)
  simp [name, kind, inputs, outputs, inputMapping, outputMapping]

end StageDefinition

namespace TemplateDefinition

/-- Whether a definition is one that has been read: its defaults are kept in order, and its timeout has
64 bits. -/
structure IsKept (d : TemplateDefinition) : Prop where
  attributes : ∀ slot ∈ d.attributes, slot.IsKept
  stages : ∀ stage ∈ d.stages, stage.IsKept
  timeout : ∀ ms, d.timeoutMs = some ms → ms < UInt64.size

theorem isKept_of_decode? {j : Json} {d : TemplateDefinition} (read : decode? j = some d) :
    d.IsKept := by
  simp only [decode?, Option.bind_eq_bind, Option.bind_eq_some_iff] at read
  obtain ⟨f, -, appId, -, attributes, slots, stages, each, artifactSlot, -, outputFilename, -,
    access, -, timeoutMs, timeout, strictParameters, -, eq⟩ := read
  cases eq
  constructor
  · intro slot member
    obtain ⟨item, own⟩ := Json.exists_of_orDefault slots member
    exact SlotDefinition.isKept_of_decode? own
  · intro stage member
    obtain ⟨document, -, list⟩ := Option.bind_eq_some_iff.mp each
    obtain ⟨item, own⟩ := Json.exists_of_list? list member
    exact StageDefinition.isKept_of_decode? own
  · rintro ms rfl
    obtain ⟨document, -, number⟩ := Json.exists_of_optional timeout
    unfold Json.nat? at number
    split at number
    next =>
      split at number
      next bound =>
        cases number
        omega
      next => cases number
    next => cases number

theorem areNamed (d : TemplateDefinition) : Json.AreNamed (parts.map (·.1))
    [some ("app_id", .text d.appId),
      some ("attributes", .array (d.attributes.map SlotDefinition.encode)),
      some ("stages", .array (d.stages.map StageDefinition.encode)),
      some ("artifact_slot", .text d.artifactSlot),
      Json.entry? "output_filename" (d.outputFilename.map .text),
      Json.listEntry? "access" d.access,
      Json.entry? "timeout_ms" (d.timeoutMs.map (fun ms => .int ms)),
      some ("strict_parameters", .bool d.strictParameters)] :=
  .some _ _ (.some _ _ (.some _ _ (.some _ _ (Json.areNamed_optional _ _ (Json.areNamed_list _ _
    (Json.areNamed_optional _ _ (.some _ _ .nil)))))))

theorem decode?_encode {d : TemplateDefinition} (kept : d.IsKept) : decode? d.encode = some d := by
  rw [decode?, encode, Json.fields?_record (by decide) d.areNamed]
  generalize fields : Json.Fields.mk true _ = f
  have appId : f.required 0 Json.text? = some d.appId := by rw [← fields]; rfl
  have attributes : f.orDefault 1 [] (Json.list? SlotDefinition.decode?) = some d.attributes := by
    rw [← fields]
    exact Json.list?_map (fun slot member =>
      SlotDefinition.decode?_encode (kept.attributes slot member))
  have stages : f.required 2 (Json.list? StageDefinition.decode?) = some d.stages := by
    rw [← fields]
    exact Json.list?_map (fun stage member =>
      StageDefinition.decode?_encode (kept.stages stage member))
  have artifactSlot : f.orDefault 3 "artifact" Json.text? = some d.artifactSlot := by
    rw [← fields]
    rfl
  have outputFilename : f.optional 4 Json.text? = some d.outputFilename :=
    Json.optional_text (by rw [← fields]; exact Json.entry?_map_snd _ _)
  have access : f.orDefault 5 [] (Json.list? Json.text?) = some d.access :=
    Json.orDefault_list "access" (by rw [← fields]; rfl)
  have timeoutMs : f.optional 6 Json.nat? = some d.timeoutMs := by
    refine Json.optional_map (fun ms : ℕ => .int ms) ?_ ?_
    · rw [← fields]
      refine (Json.entry?_map_snd _ _).trans ?_
      cases d.timeoutMs <;> rfl
    · intro ms said
      have bound := kept.timeout ms said
      exact ⟨by simp [Json.nat?, Json.int, bound], nofun⟩
  have strictParameters : f.orDefault 7 true Json.bool? = some d.strictParameters := by
    rw [← fields]
    rfl
  simp [appId, attributes, stages, artifactSlot, outputFilename, access, timeoutMs,
    strictParameters]

end TemplateDefinition

/-- Decoding undoes encoding: for values with finite numbers and the declarations made of them, for
assertions on access, and for all definitions of templates that have been read. -/
theorem declarations_read_back :
    (∀ v : Value, v.IsEncodable → Value.decode? v.encode = some v) ∧
    (∀ s : Slot, (∀ v, s.default? = some v → v.IsEncodable) → Slot.decode? s.encode = some s) ∧
    (∀ c : Contract, (∀ v ∈ c.defaults, v.IsEncodable) → Contract.decode? c.encode = some c) ∧
    (∀ s : StageSpec, (∀ v ∈ s.defaults, v.IsEncodable) → StageSpec.decode? s.encode = some s) ∧
    (∀ a : Access, Access.decode? a.encode = some a) ∧
    (∀ (j : Json) (d : TemplateDefinition), TemplateDefinition.decode? j = some d →
      TemplateDefinition.decode? d.encode = some d) :=
  ⟨fun _ => Value.decode?_encode, fun _ => Slot.decode?_encode, fun _ => Contract.decode?_encode,
    fun _ => StageSpec.decode?_encode, Access.decode?_encode,
    fun _ _ read => TemplateDefinition.decode?_encode (TemplateDefinition.isKept_of_decode? read)⟩

/-- A stage whose default has maps in it, and a template with a default that is not in order. -/
theorem declarations_read_back_legend :
    let v : Value := .map [("font", .artifact ⟨"/font", some "font/ttf"⟩),
      ("sizes", .list [.number ⟨0x4004000000000000⟩, .integer (-1), .null, .map []])]
    let slot : Slot := ⟨"legend", .map, .hasDefault v, ["title"], some "extras"⟩
    let c : Contract := ⟨[slot, .plain "title" .string .required]⟩
    let stage : StageSpec := ⟨"draw", c, ∅, .ofList [("title", "name")], ∅⟩
    let default : Json := .object [("b", .int 1), ("a", .null), ("b", .double ⟨0x4004000000000000⟩)]
    let j : Json := .object [("stages", .array []), ("app_id", .text "plan"), ("note", .null),
      ("attributes", .array [.object [("default", default), ("name", .text "legend")]])]
    let d : TemplateDefinition := ⟨"plan", [⟨"legend", "any", none, some default.canonical, [], none⟩],
      [], "artifact", none, [], none, true⟩
    Value.decode? v.encode = some v ∧ Slot.decode? slot.encode = some slot ∧
      Contract.decode? c.encode = some c ∧ StageSpec.decode? stage.encode = some stage ∧
      TemplateDefinition.decode? j = some d ∧ TemplateDefinition.decode? d.encode = some d := by
  intro v slot c stage default j d
  obtain ⟨values, slots, contracts, stages, -, templates⟩ := declarations_read_back
  have digits : Double.isFinite ⟨0x4004000000000000⟩ = true := by decide
  have order : "font" < "sizes" := by decide
  have sizes : Value.AreOrdered [.number ⟨0x4004000000000000⟩, .integer (-1), .null, .map []] :=
    ⟨trivial, trivial, trivial, ⟨.nil, trivial⟩, trivial⟩
  have encodable : v.IsEncodable :=
    ⟨⟨trivial, ⟨digits, trivial, trivial, trivial, trivial⟩, trivial⟩,
      List.pairwise_pair.mpr order, trivial, sizes, trivial⟩
  have inputs : ∀ w ∈ c.defaults, w.IsEncodable := List.forall_mem_singleton.mpr encodable
  have read : TemplateDefinition.decode? j = some d := by rfl
  refine ⟨values v encodable, slots slot ?_, contracts c inputs, stages stage ?_, read,
    templates j d read⟩
  · rintro w default
    cases default
    exact encodable
  · exact List.forall_mem_append.mpr ⟨inputs, nofun⟩

end Printworks
