import Printworks.Access
import Printworks.Definition.Declaration
import Printworks.FileName.Render
import Printworks.Graph.Cache
import Printworks.Pipeline

/-!
# Templates

A definition becomes a template when its stages have implementations, its file name is well formed,
its slots have types, its stages fit together and one of them produces the artifact. These are
checked in this order, and the first problem is reported.
-/

namespace Printworks

universe u

inductive TemplateError where
  | unknownStageKind (stage kind : String)
  | invalidFileName
  | definition (cause : DefinitionError)
  | graph (errors : List GraphError)
  | unknownArtifactSlot (slot : String)
  | pipeline (cause : StageCountMismatch)
  deriving DecidableEq, Inhabited

def TemplateError.message (e : TemplateError) : String :=
  match e with
  | unknownStageKind stage kind => s!"stage '{stage}' uses unknown stage kind '{kind}'"
  | invalidFileName => "invalid output file name template"
  | definition cause => cause.message
  | graph errors => GraphError.summary errors
  | unknownArtifactSlot slot => s!"artifact slot '{slot}' is not produced by any stage"
  | pipeline cause => cause.message

/-- Implementations by kind of stage. -/
abbrev Catalog (Implementation : Type u) := Dict Implementation

def Catalog.describe {Implementation : Type u} (c : Catalog Implementation) : String :=
  "StageCatalog \x7b kinds: " ++ Text.quotedList c.keys ++ " \x7d"

structure Template (Implementation : Type u) where
  appId : String
  attributes : Contract
  pipeline : Pipeline Implementation
  /-- The number of the graph, which other templates may share. -/
  graphNumber : Nat
  artifactSlot : String
  /-- The template of the file name. -/
  fileName : String
  access : Access
  timeoutMs : Option Nat
  extraParameters : ExtraParameters

namespace Template

variable {Implementation : Type u}

/-- The implementations of the stages, or the first stage that has none. -/
def implementations (catalog : Catalog Implementation) (stages : List StageDefinition) :
    Except TemplateError (List Implementation) :=
  stages.mapM (fun stage =>
    match catalog.get? stage.kind with
    | some implementation => .ok implementation
    | none => .error (.unknownStageKind stage.name stage.kind))

def fileNameOf (d : TemplateDefinition) : String := d.outputFilename.getD FileName.defaultTemplate

def extraParametersOf (d : TemplateDefinition) : ExtraParameters :=
  if d.strictParameters then .reject else .warn

def assemble (d : TemplateDefinition) (implementations : List Implementation)
    (attributes : Contract) (shared : SharedGraph) :
    Except TemplateError (Template Implementation) :=
  if (shared.graph.producer? d.artifactSlot).isNone then
    .error (.unknownArtifactSlot d.artifactSlot)
  else
    match Pipeline.pair shared.graph implementations with
    | .error cause => .error (.pipeline cause)
    | .ok pipeline =>
      .ok {
        appId := d.appId
        attributes := attributes
        pipeline := pipeline
        graphNumber := shared.number
        artifactSlot := d.artifactSlot
        fileName := fileNameOf d
        access := .anyOf d.access
        timeoutMs := d.timeoutMs
        extraParameters := extraParametersOf d }

/-- What has to hold before the graph is built: the implementations, the attributes and the
stages. -/
def prepare (d : TemplateDefinition) (catalog : Catalog Implementation) :
    Except TemplateError (List Implementation × Contract × List StageSpec) :=
  match implementations catalog d.stages with
  | .error e => .error e
  | .ok implementations =>
    if !FileName.isValid (fileNameOf d) then .error .invalidFileName
    else
      match d.declare with
      | .error cause => .error (.definition cause)
      | .ok (attributes, stages) => .ok (implementations, attributes, stages)

/-- The template of a definition. Its graph is taken from the cache or kept there. -/
def resolve (d : TemplateDefinition) (catalog : Catalog Implementation) (cache : GraphCache)
    (suffixes : Suffixes) :
    Except TemplateError (Template Implementation) × GraphCache × Suffixes :=
  match prepare d catalog with
  | .error e => (.error e, cache, suffixes)
  | .ok (implementations, attributes, stages) =>
    match cache.getOrBuild stages attributes suffixes with
    | (.error errors, cache, suffixes) => (.error (.graph errors), cache, suffixes)
    | (.ok shared, cache, suffixes) =>
      (assemble d implementations attributes shared, cache, suffixes)

end Template

end Printworks
