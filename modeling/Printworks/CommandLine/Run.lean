import Printworks.CommandLine.Arguments
import Printworks.CommandLine.Response
import Printworks.Definition.Declaration
import Printworks.Graph.Basic
import Printworks.Job.Inquiry
import Printworks.Json.Printer
import Printworks.Json.Reader
import Printworks.Registry.Table

/-!
# Running commands

The commands check a template file, bind a request to its attributes and show the status of a job.
What they find around them is given as data, so that a run is a function.
-/

namespace Printworks.CommandLine

structure Surroundings where
  /-- The folder of the user, if there is one. -/
  home : Option String
  readFile : String → Except String String
  /-- The registry in a file, if there is such a file, or the causes why it cannot be opened. -/
  registry : String → Option (Except (List String) Registry.Table)
  input : Except String String
  now : Instant

def greeting : String := "cartograph - use --help to see available commands\n"

def version : String := "cartograph 0.0.1-alpha.0\n"

def help : String :=
  "Usage: cartograph [--data-dir <DATA_DIR>] [validate <FILE> | bind <FILE> | " ++
    "status <REFERENCE_ID> [--user <USER>] [--role <ROLE>]...]\n"

/-- The definition in a template file. -/
def loadTemplate (s : Surroundings) (file : String) : Except Failure TemplateDefinition :=
  match s.readFile file with
  | .error cause => .error ⟨"failed to read template file: " ++ file, [cause]⟩
  | .ok text =>
    match TemplateDefinition.read? text with
    | some d => .ok d
    | none => .error ⟨"failed to parse template file: " ++ file, ["not a template definition"]⟩

def declared (d : TemplateDefinition) : Except Failure (Contract × List StageSpec) :=
  match d.declare with
  | .ok declaration => .ok declaration
  | .error e => .error ⟨"invalid template", e.message :: e.cause?.toList⟩

/-- The document on a template that is valid. -/
def summaryDocument (d : TemplateDefinition) (attributes : Contract) (g : Graph) : Json :=
  .object [("app_id", .text d.appId), ("artifact_slot", .text d.artifactSlot),
    ("attributes", .texts attributes.names),
    ("stages", .texts (g.order.map (Graph.stageName g.stages)))]

/-- Check that the declared stages fit together and produce the artifact. -/
def checkStages (d : TemplateDefinition) (attributes : Contract) (stages : List StageSpec) :
    Response :=
  match Graph.build stages attributes .numbered with
  | .error errors =>
    (Response.failure (.plain ("template '" ++ d.appId ++ "' has " ++ toString errors.length ++
      " configuration error(s)"))).after (errors.map (fun e => "error: " ++ e.message))
  | .ok (g, _) =>
    if (g.producer? d.artifactSlot).isNone then
      .failure (.plain ("artifact slot '" ++ d.artifactSlot ++ "' is not produced by any stage"))
    else
      (Response.success ((summaryDocument d attributes g).pretty ++ "\n")).after
        ["Template '" ++ d.appId ++ "' is valid"]

/-- Check a template definition. -/
def checkDefinition (d : TemplateDefinition) : Response :=
  match declared d with
  | .error f => .failure f
  | .ok (attributes, stages) => checkStages d attributes stages

/-- Check a template file. -/
def validate (s : Surroundings) (file : String) : Response :=
  match loadTemplate s file with
  | .error f => .failure f
  | .ok d => checkDefinition d

/-- The request on the input. Blanks are a request without entries. -/
def readRequest (s : Surroundings) : Except Failure (Dict Json) :=
  match s.input with
  | .error cause => .error ⟨"failed to read request from stdin", [cause]⟩
  | .ok text =>
    if (Text.trimmed text).isEmpty then .ok ∅
    else
      match Json.readCanonical? text with
      | none => .error ⟨"failed to parse request JSON from stdin", ["not a document"]⟩
      | some j =>
        match j.dict? with
        | some request => .ok request
        | none => .error (.plain ("request must be a JSON object, got " ++ j.compact))

def showBinding (b : Binding) : Response :=
  let response := match b.toExcept with
    | .error violations => Response.failure (.plain (Violation.summary violations))
    | .ok values => .success ((Json.ofDict (values.map Value.toJson)).pretty ++ "\n")
  response.after (b.warnings.map ("warning: " ++ ·))

def bindRequest (s : Surroundings) (file : String) : Response :=
  match loadTemplate s file with
  | .error f => .failure f
  | .ok d =>
    match declared d with
    | .error f => .failure f
    | .ok (attributes, _) =>
      match readRequest s with
      | .error f => .failure f
      | .ok request =>
        showBinding (attributes.bind request (if d.strictParameters then .reject else .warn))

def inFolder (folder name : String) : String :=
  if folder.endsWith "/" then folder ++ name else folder ++ "/" ++ name

def showStatus (table : Registry.Table) (reference : String) (capability : Capability)
    (now : Instant) : Response :=
  match (JobRecord.poll reference capability now table).1 with
  | .error e => .failure ⟨"failed to read status of '" ++ reference ++ "'", [e.message]⟩
  | .ok status => .success (status.encode.pretty ++ "\n")

/-- Show the status of a job in the registry of a folder. -/
def status (s : Surroundings) (folder reference : String) (user : Option String)
    (roles : List String) : Response :=
  let path := inFolder folder "registry.db"
  match s.registry path with
  | none => .failure (.plain ("no registry found at " ++ path))
  | some (.error causes) => .failure ⟨"failed to open registry: " ++ path, causes⟩
  | some (.ok table) =>
    showStatus table reference (user.elim .anonymous (Capability.user · roles)) s.now

/-- The folder for data: the one that is named, or else one in the folder of the user. -/
def dataFolder? (s : Surroundings) (i : Invocation) : Option String :=
  i.dataFolder <|> s.home.map (inFolder · ".cartograph")

def Invocation.run (i : Invocation) (s : Surroundings) : Response :=
  match dataFolder? s i with
  | none => .failure (.plain "could not determine home directory")
  | some folder =>
    match i.command with
    | .nothing => .success greeting
    | .validate file => validate s file
    | .bind file => bindRequest s file
    | .status reference user roles => status s folder reference user roles

def refuse (r : Refusal) : Response :=
  match r with
  | .version => .success version
  | .help => .success help
  | .misuse => ⟨2, "", "error: the arguments cannot be understood\n"⟩

def run (args : List String) (s : Surroundings) : Response :=
  match Invocation.read args with
  | .ok i => i.run s
  | .error r => refuse r

end Printworks.CommandLine
