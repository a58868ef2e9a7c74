import Printworks.CommandLine.Run
import Printworks.Job.Manager
import Printworks.Proofs.Job.Template

/-!
# Checking a template file and registering it

A template file is checked on the command line without a catalog of stages and without a cache. A
manager resolves the same definition with both. The two agree on the declaration, on its graph, which
may come from the cache, and on the artifact. Only the file name is looked at by the manager alone.
-/

namespace Printworks

universe u

/-! ### What both of them ask for -/

namespace Graph

/-- Whether stages fit together and one of them produces the artifact. -/
def Yields (stages : List StageSpec) (attributes : Contract) (artifact : String) : Prop :=
  (∃ g : Graph, g.Accepts stages attributes .numbered) ∧
    ((producersOf stages).get? artifact).isSome = true

end Graph

namespace GraphCache

open Printworks.Graph

variable {stages : List StageSpec} {attributes : Contract} {suffixes : Suffixes}

/-- A graph that was built for a declaration with the same document has as many stages, and the same
producers. -/
theorem IsLike.frame {g : Graph} (like : IsLike stages attributes g) :
    g.size = stages.length ∧ g.producers = producersOf stages := by
  obtain ⟨stages', attributes', suffixes', same, accepted⟩ := like
  obtain ⟨bare, -⟩ :=
    mapDefaults_eq_of_document (respects_const .null (defaults stages attributes)) same
  constructor
  · have lengths := congrArg List.length bare
    rw [List.length_map, List.length_map] at lengths
    rw [Graph.size, accepted.stages_eq, lengths]
    exact (sources_renamed stages' attributes' suffixes').length_eq.symm
  · rw [accepted.checked.producers, ← producersOf_mapDefaults (fun _ => .null) stages', ← bare,
      producersOf_mapDefaults]

/-- A cache has an answer where a graph could be built. -/
theorem exists_answered_of_accepts (cache : GraphCache) {g : Graph}
    (accepted : g.Accepts stages attributes suffixes) :
    ∃ shared, (cache.getOrBuild stages attributes suffixes).1 = .ok shared := by
  obtain ⟨rest, built⟩ := accepted
  rcases getOrBuild_cases cache stages attributes suffixes with
    ⟨shared, -, eq⟩ | ⟨-, errors, failed, -⟩ | ⟨-, g, rest, -, eq⟩
  · exact ⟨shared, congrArg Prod.fst eq⟩
  · rw [built] at failed
    cases failed
  · exact ⟨_, congrArg Prod.fst eq⟩

end GraphCache

/-! ### On the command line -/

namespace CommandLine

theorem checkStages_exit (d : TemplateDefinition) (attributes : Contract)
    (stages : List StageSpec) : (checkStages d attributes stages).exit = 0 ↔
      Graph.Yields stages attributes d.artifactSlot := by
  unfold checkStages
  cases built : Graph.build stages attributes .numbered with
  | error errors =>
    constructor
    · intro success
      cases success
    · rintro ⟨⟨g, rest, accepted⟩, -⟩
      rw [built] at accepted
      cases accepted
  | ok result =>
    obtain ⟨g, rest⟩ := result
    have accepted : g.Accepts stages attributes .numbered := ⟨rest, built⟩
    have producer : g.producer? d.artifactSlot = (Graph.producersOf stages).get? d.artifactSlot := by
      rw [Graph.producer?, accepted.checked.producers]
    simp only [producer]
    cases found : (Graph.producersOf stages).get? d.artifactSlot with
    | none =>
      simp [Graph.Yields, found, Response.failure]
    | some i =>
      simp [Graph.Yields, found, Response.after, Response.success]
      exact ⟨g, accepted⟩

/-- A definition is found valid if it declares stages that fit together and yield the artifact. -/
theorem checkDefinition_exit (d : TemplateDefinition) : (checkDefinition d).exit = 0 ↔
    ∃ attributes stages, d.declare = .ok (attributes, stages) ∧
      Graph.Yields stages attributes d.artifactSlot := by
  unfold checkDefinition declared
  cases d.declare with
  | error e => simp [Response.failure]
  | ok declaration =>
    obtain ⟨attributes, stages⟩ := declaration
    simp [checkStages_exit]

end CommandLine

/-! ### In a manager -/

/-- What a manager is asked to make a template of. -/
structure Registration (Implementation : Type u) where
  definition : TemplateDefinition
  catalog : Catalog Implementation
  suffixes : Suffixes

namespace Registration

variable {Implementation : Type u}

def resolve (r : Registration Implementation) (cache : GraphCache) :
    Except TemplateError (Template Implementation) × GraphCache × Suffixes :=
  Template.resolve r.definition r.catalog cache r.suffixes

/-- What the cache is asked for, if it comes to that. -/
def call? (r : Registration Implementation) : Option GraphCache.Call :=
  match Template.prepare r.definition r.catalog with
  | .error _ => none
  | .ok (_, attributes, stages) => some (.get stages attributes r.suffixes)

/-- The cache after some templates have been resolved or refused, none having been so before. -/
def cacheAfter (earlier : List (Registration Implementation)) : GraphCache :=
  earlier.foldl (fun cache r => (r.resolve cache).2.1) ∅

theorem resolve_cache (r : Registration Implementation) (cache : GraphCache) :
    (r.resolve cache).2.1 = r.call?.elim cache cache.perform := by
  unfold resolve Template.resolve call?
  cases Template.prepare r.definition r.catalog with
  | error e => rfl
  | ok prepared =>
    obtain ⟨implementations, attributes, stages⟩ := prepared
    simp only [Option.elim_some, GraphCache.perform_get]
    generalize cache.getOrBuild stages attributes r.suffixes = answer
    obtain ⟨_ | shared, cache, suffixes⟩ := answer
    · rfl
    · rfl

/-- Resolutions do nothing to a cache but ask it for graphs. -/
theorem cacheAfter_eq (earlier : List (Registration Implementation)) :
    cacheAfter earlier = .after (earlier.filterMap call?) := by
  induction earlier using List.reverseRecOn with
  | nil => rfl
  | append_singleton earlier r ih =>
    rw [List.filterMap_append, cacheAfter, List.foldl_append]
    change (r.resolve (cacheAfter earlier)).2.1 = _
    rw [resolve_cache, ih]
    cases asked : r.call? with
    | none => simp [asked]
    | some call => simp [asked, GraphCache.after_concat]

end Registration

namespace Template

variable {Implementation : Type u} {d : TemplateDefinition} {catalog : Catalog Implementation}

theorem exists_implementations {stages : List StageDefinition}
    (registered : ∀ stage ∈ stages, catalog.contains stage.kind = true) :
    ∃ known, implementations catalog stages = .ok known := by
  unfold implementations
  apply exists_mapM_eq_ok
  intro stage member
  obtain ⟨implementation, found⟩ := Option.isSome_iff_exists.mp (registered stage member)
  exact ⟨implementation, by rw [found]⟩

/-- If each kind of stage is known, the file name and the declaration are all that is left to look
at. -/
theorem exists_prepare_eq (registered : ∀ stage ∈ d.stages, catalog.contains stage.kind = true) :
    ∃ known, prepare d catalog =
      if FileName.isValid (fileNameOf d) then
        (d.declare.map (fun declared => (known, declared))).mapError .definition
      else .error .invalidFileName := by
  obtain ⟨known, found⟩ := exists_implementations registered
  refine ⟨known, ?_⟩
  simp only [prepare, found]
  cases FileName.isValid (fileNameOf d) with
  | false => rfl
  | true =>
    cases d.declare with
    | error cause => rfl
    | ok declared => rfl

theorem resolve_of_prepared {known : List Implementation} {attributes : Contract}
    {stages : List StageSpec} (prepared : prepare d catalog = .ok (known, attributes, stages))
    (cache : GraphCache) (given : Suffixes) :
    (resolve d catalog cache given).1 =
      match (cache.getOrBuild stages attributes given).1 with
      | .error errors => .error (.graph errors)
      | .ok shared => assemble d known attributes shared := by
  simp only [resolve, prepared]
  generalize cache.getOrBuild stages attributes given = answer
  obtain ⟨_ | shared, cache, suffixes⟩ := answer
  · rfl
  · rfl

/-- A template is assembled with an implementation for each stage if its graph produces the
artifact. -/
theorem assemble_paired (d : TemplateDefinition) {known : List Implementation}
    (attributes : Contract) {shared : SharedGraph} (paired : known.length = shared.graph.size) :
    ((∃ t, assemble d known attributes shared = .ok t) ↔
      (shared.graph.producer? d.artifactSlot).isSome = true) ∧
    ∀ cause, assemble d known attributes shared ≠ .error (.pipeline cause) := by
  unfold assemble
  cases shared.graph.producer? d.artifactSlot with
  | none => simp
  | some p => simp [Pipeline.pair, paired]

end Template

namespace Registration

variable {Implementation : Type u} {r : Registration Implementation}
  {earlier : List (Registration Implementation)}

/-- Once a template is prepared, there is one if and only if its stages fit together and yield the
artifact. The graph may come from the cache, where it has been built for other defaults. -/
theorem resolve_of_prepared
    (apart : GraphCache.HashedApart ((earlier ++ [r]).filterMap call?))
    {known : List Implementation} {attributes : Contract} {stages : List StageSpec}
    (prepared : Template.prepare r.definition r.catalog = .ok (known, attributes, stages)) :
    ((∃ t, (r.resolve (cacheAfter earlier)).1 = .ok t) ↔
      Graph.Yields stages attributes r.definition.artifactSlot) ∧
    ∀ cause, (r.resolve (cacheAfter earlier)).1 ≠ .error (.pipeline cause) := by
  have asked : r.call? = some (.get stages attributes r.suffixes) := by
    simp only [call?, prepared]
  rw [List.filterMap_append, List.filterMap_cons_some asked, List.filterMap_nil] at apart
  rw [resolve, Template.resolve_of_prepared prepared, cacheAfter_eq]
  cases answered : ((GraphCache.after (earlier.filterMap call?)).getOrBuild stages attributes
      r.suffixes).1 with
  | error errors =>
    refine ⟨⟨fun found => ?_, ?_⟩, fun cause => by simp⟩
    · obtain ⟨t, eq⟩ := found
      cases eq
    · rintro ⟨accepted, -⟩
      obtain ⟨g, accepted⟩ := Graph.exists_accepts_suffixes r.suffixes accepted
      obtain ⟨shared, eq⟩ := GraphCache.exists_answered_of_accepts
        (.after (earlier.filterMap call?)) accepted
      rw [answered] at eq
      cases eq
  | ok shared =>
    have like := GraphCache.isLike_of_answered apart answered
    obtain ⟨size, producers⟩ := like.frame
    obtain ⟨count, -, -⟩ := Template.prepare_eq_ok prepared
    obtain ⟨assembled, paired⟩ := Template.assemble_paired r.definition attributes
      (count.trans size.symm)
    refine ⟨?_, paired⟩
    rw [assembled, Graph.producer?, producers, Graph.Yields]
    exact ⟨fun found => ⟨like.exists_accepts .numbered, found⟩, And.right⟩

end Registration

/-! ### Agreement -/

/-- There is a template of a definition if and only if the command finds the definition valid and its
file name is well formed. -/
theorem Registration.resolve_iff {Implementation : Type u} {r : Registration Implementation}
    {earlier : List (Registration Implementation)}
    (registered : ∀ stage ∈ r.definition.stages, r.catalog.contains stage.kind = true)
    (apart : GraphCache.HashedApart ((earlier ++ [r]).filterMap call?)) :
    ((∃ t, (r.resolve (cacheAfter earlier)).1 = .ok t) ↔
      (CommandLine.checkDefinition r.definition).exit = 0 ∧
        FileName.isValid (Template.fileNameOf r.definition) = true) ∧
    ∀ cause, (r.resolve (cacheAfter earlier)).1 ≠ .error (.pipeline cause) := by
  obtain ⟨known, eq⟩ := Template.exists_prepare_eq registered
  rw [CommandLine.checkDefinition_exit]
  cases named : FileName.isValid (Template.fileNameOf r.definition) with
  | false =>
    rw [named] at eq
    simp [resolve, Template.resolve, eq]
  | true =>
    rw [named, if_pos rfl] at eq
    cases declared : r.definition.declare with
    | error cause =>
      rw [declared] at eq
      simp [resolve, Template.resolve, eq, Except.map, Except.mapError]
    | ok declaration =>
      obtain ⟨attributes, stages⟩ := declaration
      rw [declared] at eq
      obtain ⟨accepted, paired⟩ := resolve_of_prepared apart eq
      refine ⟨?_, paired⟩
      rw [accepted]
      simp

theorem Template.isValid_fileNameOf (d : TemplateDefinition) :
    FileName.isValid (fileNameOf d) = true ↔
      ∀ name, d.outputFilename = some name → FileName.isValid name = true := by
  unfold fileNameOf
  cases d.outputFilename with
  | none =>
    have default : FileName.isValid FileName.defaultTemplate = true := by decide +kernel
    simp [default]
  | some name => simp

namespace CommandLine

open Registration

theorem validate_of_read {s : Surroundings} {file text : String} {d : TemplateDefinition}
    (there : s.readFile file = .ok text) (decoded : TemplateDefinition.read? text = some d) :
    validate s file = checkDefinition d := by
  simp only [validate, loadTemplate, there, decoded]

/-- Take the definition in a file, a catalog that knows the kinds of its stages, and the cache after
any templates have been resolved or refused, no two texts having been hashed to one key. Then there
is a template of the definition if and only if the command finds the file valid and the file name, if
the definition gives one, is well formed. A manager with this cache registers the definition in the
same cases. Implementations are never too many or too few. -/
theorem validate_iff_resolve {Implementation : Type u} {s : Surroundings} {file text : String}
    {r : Registration Implementation} {earlier : List (Registration Implementation)}
    (there : s.readFile file = .ok text)
    (decoded : TemplateDefinition.read? text = some r.definition)
    (registered : ∀ stage ∈ r.definition.stages, r.catalog.contains stage.kind = true)
    (apart : GraphCache.HashedApart ((earlier ++ [r]).filterMap call?)) :
    let accepted := (validate s file).exit = 0 ∧
      ∀ name, r.definition.outputFilename = some name → FileName.isValid name = true
    ((∃ t, (r.resolve (cacheAfter earlier)).1 = .ok t) ↔ accepted) ∧
    (∀ m : Manager Implementation, m.graphs = cacheAfter earlier →
      ((m.register r.definition r.catalog r.suffixes).1 = .ok () ↔ accepted)) ∧
    (∀ cause, (r.resolve (cacheAfter earlier)).1 ≠ .error (.pipeline cause)) := by
  intro accepted
  obtain ⟨agree, paired⟩ := resolve_iff registered apart
  rw [Template.isValid_fileNameOf, ← validate_of_read there decoded] at agree
  refine ⟨agree, ?_, paired⟩
  intro m shared
  refine Iff.trans ?_ agree
  rw [resolve, ← shared, Manager.register]
  generalize Template.resolve r.definition r.catalog m.graphs r.suffixes = resolved
  obtain ⟨_ | t, cache, suffixes⟩ := resolved
  · simp
  · simp

/-- A file that defines a sheet, with a template for its file name. -/
def sheetText (fileName : String) : String :=
  "\x7b\"app_id\":\"print\",\"stages\":[\x7b\"name\":\"draw\",\"kind\":\"draw\"," ++
    "\"outputs\":[\x7b\"name\":\"sheet\"\x7d]\x7d],\"artifact_slot\":\"sheet\"," ++
    "\"output_filename\":\"" ++ fileName ++ "\"\x7d"

/-- What the file defines, and a catalog that knows the kind of the stage. -/
def sheetRegistration (fileName : String) : Registration Unit where
  definition :=
    { appId := "print"
      attributes := []
      stages := [⟨"draw", "draw", [], [⟨"sheet", "any", none, none, [], none⟩], ∅, ∅⟩]
      artifactSlot := "sheet"
      outputFilename := some fileName
      access := []
      timeoutMs := none
      strictParameters := true }
  catalog := .ofList [("draw", ())]
  suffixes := .numbered

theorem registered_sheet (fileName : String) :
    ∀ stage ∈ (sheetRegistration fileName).definition.stages,
      (sheetRegistration fileName).catalog.contains stage.kind = true := by
  intro stage member
  cases List.mem_singleton.mp member
  have known : (Dict.ofList [("draw", ())]).contains "draw" = true := by decide +kernel
  exact known

def sheetCall : GraphCache.Call :=
  .get [⟨"draw", ∅, ⟨[.plain "sheet" .any .required]⟩, ∅, ∅⟩] ∅ .numbered

/-- What the cache is asked for does not depend on the file name, as long as that is well formed. -/
theorem call?_sheet {fileName : String} (named : FileName.isValid fileName = true) :
    (sheetRegistration fileName).call? = some sheetCall := by
  obtain ⟨known, eq⟩ := Template.exists_prepare_eq (registered_sheet fileName)
  have name : Template.fileNameOf (sheetRegistration fileName).definition = fileName := rfl
  rw [name, named, if_pos rfl] at eq
  rw [call?, eq]
  rfl

/-- A folder with one file. -/
def withFile (text : String) : Surroundings := ⟨none, fun _ => .ok text, fun _ => none, .ok "", default⟩

/-- A sheet is registered again under another file name, with the graph that is in the cache. -/
theorem validate_iff_resolve_sheet :
    let first := sheetRegistration "first"
    let again := sheetRegistration "again"
    (validate (withFile (sheetText "again")) "t.json").exit = 0 ∧
      (∃ t, (again.resolve (cacheAfter [first])).1 = .ok t) := by
  intro first again
  have decoded : TemplateDefinition.read? (sheetText "again") = some again.definition := by
    decide +kernel
  have apart : GraphCache.HashedApart (([first] ++ [again]).filterMap call?) := by
    have asked : [first, again].filterMap call? = [sheetCall, sheetCall] := by
      rw [List.filterMap_cons_some (call?_sheet (by decide +kernel)),
        List.filterMap_cons_some (call?_sheet (by decide +kernel)), List.filterMap_nil]
    rw [List.singleton_append, asked]
    exact GraphCache.hashedApart_of_same sheetCall (by simp)
  have there : (withFile (sheetText "again")).readFile "t.json" = .ok (sheetText "again") := rfl
  obtain ⟨agree, -, -⟩ := validate_iff_resolve there decoded (registered_sheet _) apart
  have valid : (validate (withFile (sheetText "again")) "t.json").exit = 0 := by decide +kernel
  refine ⟨valid, agree.mpr ⟨valid, ?_⟩⟩
  intro name given
  cases given
  decide +kernel

/-- The command finds a file valid whose file name is not well formed, and no template is made of
it. -/
theorem validates_bad_fileName :
    let bad := sheetRegistration "\x7b\x7b app_id"
    TemplateDefinition.read? (sheetText "\x7b\x7b app_id") = some bad.definition ∧
      (∀ stage ∈ bad.definition.stages, bad.catalog.contains stage.kind = true) ∧
      (validate (withFile (sheetText "\x7b\x7b app_id")) "t.json").exit = 0 ∧
      (bad.resolve ∅).1 = .error .invalidFileName := by
  intro bad
  have named : FileName.isValid (Template.fileNameOf bad.definition) = false := by decide +kernel
  obtain ⟨known, eq⟩ := Template.exists_prepare_eq (registered_sheet "\x7b\x7b app_id")
  have refused : Template.prepare bad.definition bad.catalog = .error .invalidFileName := by
    rw [show Template.prepare bad.definition bad.catalog = _ from eq]
    exact if_neg (by simpa using named)
  refine ⟨by decide +kernel, registered_sheet _, by decide +kernel, ?_⟩
  simp only [resolve, Template.resolve, refused]

end CommandLine

end Printworks
