import Printworks.Job.Template
import Printworks.Proofs.Definition.Declaration
import Printworks.Proofs.Execution.Cancellation
import Printworks.Proofs.Execution.Refusals
import Printworks.Proofs.Graph.Cache

/-!
# What becomes of the requests of a template

A template has the attributes that its definition declares, and a graph of stages with the same
documents as those that it declares, which may have been built for another template. Since types are
part of documents, a request that is bound fits the graph all the same. So types that are declared are
kept, whatever the stages do, and nothing that is required is missing but for what has been made null.
-/

namespace Printworks

universe u

/-! ### Documents of declarations -/

namespace Graph

variable {stages stages' : List StageSpec} {attributes attributes' : Contract}

theorem parts_of_document
    (same : declarationDocument stages attributes = declarationDocument stages' attributes') :
    stages.map StageSpec.encode = stages'.map StageSpec.encode ∧
      attributes.encode = attributes'.encode := by
  simp only [declarationDocument, stagesDocument, Json.object.injEq, Json.array.injEq,
    List.cons.injEq, Prod.mk.injEq, true_and, and_true] at same
  exact same

theorem exists_stage_of_document
    (same : declarationDocument stages attributes = declarationDocument stages' attributes')
    {stage : StageSpec} (member : stage ∈ stages') : ∃ stage' ∈ stages, stage'.encode = stage.encode := by
  have there : stage.encode ∈ stages'.map StageSpec.encode := List.mem_map_of_mem member
  rw [← (parts_of_document same).1] at there
  exact List.mem_map.mp there

end Graph

/-- The definition of a slot that is required. -/
def SlotDefinition.required (name type : String) : SlotDefinition :=
  ⟨name, type, none, none, [], none⟩

namespace Template

variable {Implementation : Type u} {d : TemplateDefinition} {catalog : Catalog Implementation}
  {cache : GraphCache} {given : Suffixes} {template : Template Implementation}

/-! ### What a template is made of -/

theorem assemble_eq_ok {implementations : List Implementation} {attributes : Contract}
    {shared : SharedGraph} (assembled : assemble d implementations attributes shared = .ok template) :
    template.attributes = attributes ∧ template.pipeline.graph = shared.graph := by
  unfold assemble at assembled
  split at assembled
  next => cases assembled
  next =>
    split at assembled
    next => cases assembled
    next pipeline paired =>
      cases assembled
      refine ⟨rfl, ?_⟩
      unfold Pipeline.pair at paired
      split at paired
      next =>
        cases paired
        rfl
      next => cases paired

theorem prepare_eq_ok {implementations : List Implementation} {attributes : Contract}
    {stages : List StageSpec} (prepared : prepare d catalog = .ok (implementations, attributes, stages)) :
    implementations.length = stages.length ∧ FileName.isValid (fileNameOf d) = true ∧
      d.declare = .ok (attributes, stages) := by
  unfold prepare at prepared
  split at prepared
  next => cases prepared
  next known =>
    split at prepared
    next => cases prepared
    next valid =>
      split at prepared
      next => cases prepared
      next declared =>
        cases prepared
        refine ⟨?_, by simpa using valid, declared⟩
        rw [TemplateDefinition.length_of_declare declared]
        exact (forall₂_of_mapM known).length_eq.symm

/-- A template is made of what its definition declares and of the graph that the cache gives for
that. -/
theorem resolve_eq_ok (resolved : (resolve d catalog cache given).1 = .ok template) :
    ∃ stages shared, d.declare = .ok (template.attributes, stages) ∧
      (cache.getOrBuild stages template.attributes given).1 = .ok shared ∧
      template.pipeline.graph = shared.graph := by
  unfold resolve at resolved
  split at resolved
  next => cases resolved
  next prepared =>
    obtain ⟨-, -, declared⟩ := prepare_eq_ok prepared
    split at resolved
    next => cases resolved
    next shared _ _ answered =>
      obtain ⟨rfl, graph⟩ := assemble_eq_ok resolved
      exact ⟨_, shared, declared, congrArg Prod.fst answered, graph⟩

/-- If all graphs in the cache were built for calls, so are those that are there after a template has
been resolved, the graph of the template among them. -/
theorem isFilled_resolve {calls : List GraphCache.Call} (filled : GraphCache.IsFilled calls cache)
    (d : TemplateDefinition) (catalog : Catalog Implementation) (given : Suffixes) :
    ∃ calls, GraphCache.IsFilled calls (resolve d catalog cache given).2.1 ∧
      ∀ t, (resolve d catalog cache given).1 = .ok t → t.pipeline.graph.IsSound := by
  unfold resolve
  split
  next => exact ⟨calls, filled, nofun⟩
  next implementations attributes stages _ =>
    have next := filled.perform (.get stages attributes given)
    have kept (shared : SharedGraph) :
        (cache.getOrBuild stages attributes given).1 = .ok shared →
          (cache.perform (.get stages attributes given)).graphs.get?
            (Graph.fingerprint stages attributes) = some shared := GraphCache.get?_of_answered
    rw [GraphCache.perform_get] at next kept
    split
    next errors _ _ eq =>
      rw [eq] at next
      exact ⟨_, next, nofun⟩
    next shared _ _ eq =>
      rw [eq] at next kept
      refine ⟨_, next, fun t assembled => ?_⟩
      obtain ⟨_, _, _, -, -, accepted⟩ := next _ shared (kept shared rfl)
      rw [(assemble_eq_ok assembled).2]
      exact accepted.isSound

/-- What is known of a template, and of the declaration that its graph was built for. -/
structure IsBuiltFor (t : Template Implementation) (stages : List StageSpec) (attributes : Contract)
    (given : Suffixes) : Prop where
  accepted : t.pipeline.graph.Accepts stages attributes given
  typed : ∀ stage ∈ stages, stage.IsTyped
  own : t.attributes.IsTyped
  alike : t.attributes.encode = attributes.encode

/-- The graph of a template was built for stages that are well typed and attributes that have the same
document as those of the template. -/
theorem exists_isBuiltFor {calls : List GraphCache.Call}
    (apart : ∀ attributes stages, d.declare = .ok (attributes, stages) →
      GraphCache.HashedApart (calls ++ [.get stages attributes given]))
    (resolved : (resolve d catalog (.after calls) given).1 = .ok template) :
    ∃ stages attributes given, template.IsBuiltFor stages attributes given ∧
      (d.isAssured = true → (∀ slot ∈ template.attributes.slots, slot.isAssured = true) ∧
        ∀ stage ∈ stages, ∀ slot ∈ stage.outputs.slots, slot.isAssured = true) := by
  obtain ⟨stages, shared, declared, answered, graph⟩ := resolve_eq_ok resolved
  obtain ⟨typedAttributes, typedStages⟩ := TemplateDefinition.isTyped_of_declare declared
  obtain ⟨stages', attributes', given', same, accepted⟩ :=
    GraphCache.isLike_of_answered (apart _ _ declared) answered
  refine ⟨stages', attributes', given', ⟨?_, ?_, typedAttributes, ?_⟩, ?_⟩
  · rwa [graph]
  -- The cache may have built the graph for another declaration, but types can be read off documents.
  · intro stage member
    obtain ⟨stage', there, alike⟩ := Graph.exists_stage_of_document same member
    exact (typedStages stage' there).of_encode alike
  · exact (Graph.parts_of_document same).2
  · intro assured
    obtain ⟨attributesAssured, outputsAssured⟩ := TemplateDefinition.isAssured_of_declare declared assured
    refine ⟨attributesAssured, ?_⟩
    intro stage member
    obtain ⟨stage', there, alike⟩ := Graph.exists_stage_of_document same member
    obtain ⟨-, writes⟩ := StageSpec.encode_contracts alike
    exact Contract.isAssured_of_encode (outputsAssured stage' there) writes

/-! ### Types -/

/-- Whether a name has a producer or is an attribute. -/
def provides (t : Template Implementation) (name : String) : Bool :=
  (t.pipeline.graph.producer? name).isSome || t.attributes.contains name

/-- The slot that declares what a name holds: the output of its producer, or else the attribute. -/
def source? (t : Template Implementation) (name : String) : Option Slot :=
  match t.pipeline.graph.producer? name with
  | some p => t.pipeline.graph.stages[p]?.bind (·.outputSlot? name)
  | none => t.attributes.get? name

namespace IsBuiltFor

variable {t : Template Implementation} {stages : List StageSpec} {attributes : Contract}

theorem provides_eq (built : t.IsBuiltFor stages attributes given) (name : String) :
    t.provides name = t.pipeline.graph.provides name := by
  have same : t.attributes.contains name = attributes.contains name := by
    rw [Bool.eq_iff_iff, Contract.contains_iff, Contract.contains_iff,
      Contract.names_eq_of_encode built.alike]
  rw [provides, same, Graph.provides, built.accepted.checked.sameAttributes]

/-- A name is declared to be of the same type by the template and by its graph. -/
theorem type_source? (built : t.IsBuiltFor stages attributes given) (name : String) :
    (t.source? name).map (·.type) = (t.pipeline.graph.source? name).map (·.type) := by
  rw [source?, Graph.source?, built.accepted.checked.sameAttributes]
  cases t.pipeline.graph.producer? name with
  | some p => rfl
  | none => exact Contract.type_get?_of_encode built.alike name

theorem exists_source? (built : t.IsBuiltFor stages attributes given) {name : String} {source : Slot}
    (own : t.source? name = some source) :
    ∃ declared, t.pipeline.graph.source? name = some declared ∧ declared.type = source.type := by
  have types := built.type_source? name
  rw [own, Option.map_some] at types
  exact Option.map_eq_some_iff.mp types.symm

/-- What can be read is declared. -/
theorem exists_source?_of_provides (built : t.IsBuiltFor stages attributes given) {name : String}
    (provided : t.provides name = true) : ∃ source, t.source? name = some source := by
  rw [built.provides_eq] at provided
  obtain ⟨declared, known⟩ := built.accepted.exists_source?
    (fun stage member => (built.typed stage member).outputs.distinct) provided
  have types := built.type_source? name
  rw [known, Option.map_some] at types
  obtain ⟨source, own, -⟩ := Option.map_eq_some_iff.mp types
  exact ⟨source, own⟩

/-- What a request binds fits the attributes that the graph was built for. -/
theorem fits (built : t.IsBuiltFor stages attributes given) (raw : Dict Json)
    (policy : ExtraParameters) : attributes.Fits (t.attributes.bind raw policy).values :=
  built.own.fits_bind.of_encode built.alike

end IsBuiltFor

/-- Take a template from a cache that has never hashed two texts to one key. Whatever a request has and
whatever the stages do, each value fits what declares its name. So an input for more than diagnosis
that reads what a producer or an attribute declares of a concrete type is never refused for its type: a
mismatch of such an input is only ever an error that the stage has ended with by itself. The last part
says that the errors spoken of are those that are reported. -/
theorem run_isTypeSound {calls : List GraphCache.Call}
    (apart : ∀ attributes stages, d.declare = .ok (attributes, stages) →
      GraphCache.HashedApart (calls ++ [.get stages attributes given]))
    (resolved : (resolve d catalog (.after calls) given).1 = .ok template) (raw : Dict Json)
    (policy : ExtraParameters) (config : ExecutorConfig) (id : String) (suffixes : Suffixes)
    (moves : List Move) :
    let graph := template.pipeline.graph
    let first := Shift.start config id graph (template.attributes.bind raw policy).values suffixes
    (∀ name v source, (first.run moves).execution.context.values.get? name = some v →
      template.source? name = some source → v.type.satisfies source.type = true) ∧
    (∀ (i : Nat) spec, graph.stages[i]? = some spec → ∀ slot ∈ spec.orderingInputs,
      template.provides (spec.inputName slot.name) = true → ∃ source,
        template.source? (spec.inputName slot.name) = some source ∧ (source.type ≠ .any →
          ∀ violations expected found, .typeMismatch slot.name expected found ∈ violations →
            first.HasYielded moves i (.error (.contract violations)) →
            first.FailsByItself moves i (.contract violations))) ∧
    (∀ (i : Nat) r, ((first.run moves).execution.reports[i]? = some r ∨
        (first.run moves).place = .finished ∧
          (first.run moves).concluded.report.stages[i]? = some r) →
      r.state = .failed → ∃ error : StageError, r.error = some error.message ∧
        first.HasYielded moves i (.error error)) := by
  intro graph first
  obtain ⟨stages, attributes, given', built, -⟩ := exists_isBuiltFor apart resolved
  refine ⟨?_, ?_, ?_⟩
  · intro name v source found own
    obtain ⟨declared, known, type⟩ := built.exists_source? own
    rw [← type]
    exact Shift.run_fits built.accepted built.typed (built.fits raw policy) config id suffixes moves
      found known
  · intro i spec place slot reads provided
    obtain ⟨source, own⟩ := built.exists_source?_of_provides provided
    obtain ⟨declared, known, type⟩ := built.exists_source? own
    refine ⟨source, own, ?_⟩
    intro concrete violations expected found mismatch yielded
    rw [← type] at concrete
    exact Shift.run_typeMismatch built.accepted built.typed (built.fits raw policy) config id suffixes
      moves yielded place reads known concrete mismatch
  · intro i r reported failed
    exact Shift.run_reported built.accepted config id suffixes moves reported failed

/-- A stage that draws a whole number of sheets, and one that binds a number of them. -/
def atlasDefinition : TemplateDefinition where
  appId := "atlas"
  attributes := [.required "scale" "integer"]
  stages := [
    ⟨"draw", "press", [.required "scale" "number"], [.required "sheet" "integer"], ∅, ∅⟩,
    ⟨"bind", "press", [.required "sheet" "number"], [.required "book" "artifact"], ∅, ∅⟩]
  artifactSlot := "book"
  outputFilename := none
  access := []
  timeoutMs := none
  strictParameters := true

def atlasGraph : Graph where
  stages := [
    ⟨"draw", ⟨[.plain "scale" .number .required]⟩, ⟨[.plain "sheet" .integer .required]⟩, ∅, ∅⟩,
    ⟨"bind", ⟨[.plain "sheet" .number .required]⟩, ⟨[.plain "book" .artifact .required]⟩, ∅, ∅⟩]
  attributes := ⟨[.plain "scale" .integer .required]⟩
  predecessorLists := [[], [0]]
  dependentLists := [[1], []]
  producers := .ofList [("book", 1), ("sheet", 0)]
  order := [0, 1]

/-- What the definition becomes. -/
def atlas : Template Unit where
  appId := "atlas"
  attributes := ⟨[.plain "scale" .integer .required]⟩
  pipeline := ⟨atlasGraph, [(), ()], rfl⟩
  graphNumber := 0
  artifactSlot := "book"
  fileName := FileName.defaultTemplate
  access := .anyOf []
  timeoutMs := none
  extraParameters := .reject

theorem atlas_resolved :
    (resolve atlasDefinition (.ofList [("press", ())]) (.after []) .numbered).1 = .ok atlas := by
  have prepared : prepare atlasDefinition (.ofList [("press", ())]) =
      .ok ([(), ()], atlas.attributes, atlasGraph.stages) := by
    have valid : FileName.isValid (fileNameOf atlasDefinition) = true := by decide +kernel
    unfold prepare
    simp only [valid]
    rfl
  unfold resolve
  simp only [prepared]
  rfl

/-- The request for an atlas of a certain scale. -/
def atlasRequest : Dict Json := .ofList [("scale", .int 3)]

theorem run_isTypeSound_atlas :
    let first := Shift.start ⟨1⟩ "e" atlasGraph (atlas.attributes.bind atlasRequest .reject).values
      .numbered
    (∀ attributes stages, atlasDefinition.declare = .ok (attributes, stages) →
      GraphCache.HashedApart ([] ++ [.get stages attributes .numbered])) ∧
    (resolve atlasDefinition (.ofList [("press", ())]) (.after []) .numbered).1 = .ok atlas ∧
    ∀ moves violations expected found, .typeMismatch "sheet" expected found ∈ violations →
      first.HasYielded moves 1 (.error (.contract violations)) →
      first.FailsByItself moves 1 (.contract violations) := by
  intro first
  have apart (attributes : Contract) (stages : List StageSpec)
      (_ : atlasDefinition.declare = .ok (attributes, stages)) :
      GraphCache.HashedApart ([] ++ [.get stages attributes .numbered]) :=
    GraphCache.hashedApart_singleton _
  refine ⟨apart, atlas_resolved, ?_⟩
  intro moves violations expected found mismatch yielded
  obtain ⟨-, sound, -⟩ := run_isTypeSound apart atlas_resolved atlasRequest .reject ⟨1⟩ "e" .numbered moves
  obtain ⟨source, declared, fails⟩ := sound 1 _ rfl (.plain "sheet" .number .required)
    List.mem_cons_self rfl
  cases declared
  exact fails (by decide) violations expected found mismatch yielded

/-! ### Presence -/

/-- An attribute that is bound to null has null for its default. -/
theorem default_of_bound_null (declared : SlotDefinition.declareAll d.attributes = .ok template.attributes)
    {raw : Dict Json} {policy : ExtraParameters} {name : String}
    (found : (template.attributes.bind raw policy).values.get? name = some .null) :
    ∃ slot ∈ d.attributes, slot.name = name ∧ slot.default = some .null := by
  have distinct := (SlotDefinition.isTyped_of_declareAll declared).distinct
  have nullOnly {j : Json} {type : ValueType} (coerced : Value.coerce? j type = some .null) :
      j = .null := by
    by_contra other
    have some_ := Value.isNull_of_coerce? coerced other
    cases some_
  obtain ⟨slot, member, rfl, ⟨j, -, other, coerced⟩ | default⟩ := Contract.get?_bind distinct found
  · exact absurd (nullOnly coerced) other
  · obtain ⟨definition, inside, one⟩ := SlotDefinition.exists_of_declareAll declared member
    obtain ⟨said, is, coerced⟩ := SlotDefinition.default?_of_declare one default
    obtain ⟨_, _, _, rfl⟩ := SlotDefinition.declare_eq_ok one
    exact ⟨definition, inside, rfl, by rw [is, nullOnly coerced]⟩

/-- If all attributes and outputs of a template are required by themselves or have defaults, a stage that
has succeeded leaves a value for each of its outputs. An input that is required by itself is still
refused as missing where this value is null, or where the definition of the attribute that it reads has
null for a default; and in no other case, unless the stage says so of itself. -/
theorem run_missing_isNull {calls : List GraphCache.Call}
    (apart : ∀ attributes stages, d.declare = .ok (attributes, stages) →
      GraphCache.HashedApart (calls ++ [.get stages attributes given]))
    (resolved : (resolve d catalog (.after calls) given).1 = .ok template)
    (assured : d.isAssured = true) (raw : Dict Json) (policy : ExtraParameters)
    (valid : (template.attributes.bind raw policy).isValid = true) (config : ExecutorConfig)
    (id : String) (suffixes : Suffixes) (moves : List Move) :
    let graph := template.pipeline.graph
    let first := Shift.start config id graph (template.attributes.bind raw policy).values suffixes
    (∀ (i : Nat) spec outputs, graph.stages[i]? = some spec → first.Delivers moves i outputs →
      ∀ slot ∈ spec.outputs.slots, ∃ v, outputs.get? slot.name = some v) ∧
    (∀ (i : Nat) spec name violations, graph.stages[i]? = some spec →
      .missingRequired name ∈ violations → first.HasYielded moves i (.error (.contract violations)) →
      first.FailsByItself moves i (.contract violations) ∨
      (∃ p outputs other output, graph.producer? (spec.inputName name) = some p ∧
        first.Delivers moves p outputs ∧ graph.stages[p]? = some other ∧
        outputs.get? output = some .null ∧ other.outputName output = spec.inputName name) ∨
      ∃ slot ∈ d.attributes, slot.name = spec.inputName name ∧ slot.default = some .null) := by
  intro graph first
  obtain ⟨_, _, declares, -, -⟩ := resolve_eq_ok resolved
  obtain ⟨declared, -⟩ := TemplateDefinition.declare_eq_ok declares
  obtain ⟨stages, attributes, given', built, has⟩ := exists_isBuiltFor apart resolved
  obtain ⟨attributesAssured, outputsAssured⟩ := has assured
  have seeded := Shift.contains_of_fits (built.fits raw policy)
  constructor
  · intro i spec outputs place delivers slot member
    obtain ⟨-, complete⟩ := Shift.fits_of_delivers built.accepted config id suffixes moves built.typed
      place delivers
    obtain ⟨stage, there, -, same⟩ := built.accepted.exists_contracts place
    exact complete slot member (outputsAssured stage there slot (same ▸ member))
  · intro i spec name violations place missing yielded
    rcases Shift.run_missingRequired built.accepted built.typed outputsAssured seeded config id suffixes
      moves yielded place missing with own | produced | ⟨known, null⟩
    · exact .inl own
    · exact .inr (.inl produced)
    -- An attribute is bound to something, which is then null.
    · right; right
      have inside : spec.inputName name ∈ template.attributes.names := by
        rw [Contract.names_eq_of_encode built.alike]
        exact Contract.contains_iff.mp known
      obtain ⟨slot, member, named⟩ := List.mem_map.mp inside
      obtain ⟨v, bound⟩ := Contract.exists_get?_bind built.own.distinct valid member
        (attributesAssured slot member)
      rw [named] at bound
      rw [null v bound] at bound
      exact default_of_bound_null declared bound

theorem run_missing_isNull_atlas :
    let first := Shift.start ⟨1⟩ "e" atlasGraph (atlas.attributes.bind atlasRequest .reject).values
      .numbered
    (∀ attributes stages, atlasDefinition.declare = .ok (attributes, stages) →
      GraphCache.HashedApart ([] ++ [.get stages attributes .numbered])) ∧
    (resolve atlasDefinition (.ofList [("press", ())]) (.after []) .numbered).1 = .ok atlas ∧
    atlasDefinition.isAssured = true ∧ (atlas.attributes.bind atlasRequest .reject).isValid = true ∧
    ∀ moves violations, .missingRequired "sheet" ∈ violations →
      first.HasYielded moves 1 (.error (.contract violations)) →
      first.FailsByItself moves 1 (.contract violations) ∨
        ∃ outputs, first.Delivers moves 0 outputs ∧ outputs.get? "sheet" = some .null := by
  intro first
  have apart (attributes : Contract) (stages : List StageSpec)
      (_ : atlasDefinition.declare = .ok (attributes, stages)) :
      GraphCache.HashedApart ([] ++ [.get stages attributes .numbered]) :=
    GraphCache.hashedApart_singleton _
  have assured : atlasDefinition.isAssured = true := by decide
  have valid : (atlas.attributes.bind atlasRequest .reject).isValid = true := by decide
  refine ⟨apart, atlas_resolved, assured, valid, ?_⟩
  intro moves violations missing yielded
  obtain ⟨-, null⟩ := run_missing_isNull apart atlas_resolved assured atlasRequest .reject valid ⟨1⟩ "e"
    .numbered moves
  rcases null 1 _ "sheet" violations rfl missing yielded with
    own | ⟨p, outputs, other, output, producer, delivers, place, left, writes⟩ | ⟨slot, member, -, default⟩
  · exact .inl own
  · cases producer
    cases place
    cases writes
    exact .inr ⟨outputs, delivers, left⟩
  · cases List.mem_singleton.mp member
    cases default

deriving instance DecidableEq for Phase

/-- A stage sets an output of whole numbers to null, which is accepted, and is done; the stage that
reads it is refused since the output is missing. -/
theorem null_output_refused :
    let first := Shift.start ⟨1⟩ "e" atlasGraph (atlas.attributes.bind atlasRequest .reject).values
      .numbered
    let moves : List Move := [.look, .start default, .rest, .enter 0, .enter 0,
      .deliver 0 ⟨[("sheet", .null)], none⟩, .settle 0 default, .look, .start default, .rest, .enter 1,
      .enter 1]
    (resolve atlasDefinition (.ofList [("press", ())]) (.after []) .numbered).1 = .ok atlas ∧
    atlasDefinition.isAssured = true ∧ (atlas.attributes.bind atlasRequest .reject).isValid = true ∧
    (first.run moves).execution.state? 0 = some .done ∧
    first.HasYielded moves 1 (.error (.contract [.missingRequired "sheet"])) ∧
    ¬ first.FailsByItself moves 1 (.contract [.missingRequired "sheet"]) := by
  intro first moves
  let read : Dict Value := .ofList [("sheet", .null)]
  have phase : (first.run moves.dropLast).execution.phase? 1 = some (.dispatched read 1) := by
    decide +kernel
  have place : (first.run moves.dropLast).execution.graph.stages[1]? = some atlasGraph.stages[1] := by
    decide +kernel
  have bound : atlasGraph.stages[1].bindRead read =
      .error (.contract [.missingRequired "sheet"]) := by decide +kernel
  refine ⟨atlas_resolved, by decide, by decide, by decide +kernel, ?_, ?_⟩
  · exact ⟨moves.dropLast, .enter 1, [], rfl, .refused phase place rfl bound⟩
  -- The only stage that delivers ends with no error.
  · rintro ⟨earlier, conduct, later, w, split, -, own⟩
    have member : .deliver 1 conduct ∈ moves := by
      rw [split]
      exact List.mem_append_right _ List.mem_cons_self
    simp [moves] at member

end Template

end Printworks
