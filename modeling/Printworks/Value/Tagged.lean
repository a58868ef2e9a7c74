import Printworks.Value.Basic

/-!
# The tagged form of values

The tagged document of a value names its type, so that nothing is lost: `encode` writes it and
`decode?` reads it back.
-/

namespace Printworks

namespace Artifact

def encode (ref : Artifact) : Json :=
  .record [some ("location", .text ref.location),
    Json.entry? "content_type" (ref.contentType.map .text)]

def decode? (j : Json) : Option Artifact := do
  let f ← j.fields? ["location", "content_type"]
  let location ← f.required 0 Json.text?
  let contentType ← f.optional 1 Json.text?
  return ⟨location, contentType⟩

end Artifact

namespace ValueType

def encode (t : ValueType) : Json := .text t.name

def decode? (j : Json) : Option ValueType := j.bareName?.bind ofName?

end ValueType

namespace Value

/-- An object of a tag and a content. -/
def taggedObject (tag : String) (content : Json) : Json :=
  .object [("type", .text tag), ("value", content)]

mutual

/-- The tagged document of a value. -/
def encode : Value → Json
  | null => .object [("type", .text "null")]
  | bool b => taggedObject "bool" (.bool b)
  | integer n => taggedObject "integer" (.int n.toInt)
  | number x => taggedObject "number" (.double x)
  | string s => taggedObject "string" (.text s)
  | list items => taggedObject "list" (.array (encodeItems items))
  | map entries => taggedObject "map" (.object (encodeEntries entries))
  | artifact ref => taggedObject "artifact" ref.encode

def encodeItems : List Value → List Json
  | [] => []
  | item :: rest => encode item :: encodeItems rest

def encodeEntries : List (String × Value) → List (String × Json)
  | [] => []
  | (key, item) :: rest => (key, encode item) :: encodeEntries rest

end

/-- The value of a tag and a content without parts of its own. -/
def ofScalar? (tag : String) (content : Json) : Option Value :=
  match tag with
  | "null" => if content.isNull then some null else none
  | "bool" => content.bool?.map bool
  | "integer" => content.int?.map integer
  | "number" => content.double?.map number
  | "string" => content.text?.map string
  | "artifact" => (Artifact.decode? content).map artifact
  | _ => none

/-- The tag that a document names. `loose` says whether an empty object may stand for the content
that a tag does not have. -/
def tag? (loose : Bool) (j : Json) : Option String := if loose then j.emptyName? else j.bareName?

mutual

/-- The value of a tagged document, its tags and those of its parts being read as `loose` says. -/
def decodeAs? (loose : Bool) : Json → Option Value
  | .object entries =>
    match Json.part? entries "type", Json.part? entries "value" with
    | some (some tag), some _ => (tag? loose tag).bind (fun tag => decodePart? loose tag entries)
    | _, _ => none
  | .array [tag, content] => (tag? loose tag).bind (fun tag => decodeContent? loose tag content)
  | _ => none

/-- The value of a tag and the content among some entries. Only null needs none. -/
def decodePart? (loose : Bool) (tag : String) : List (String × Json) → Option Value
  | [] => if tag = "null" then some null else none
  | (key, content) :: rest =>
    if key = "value" then decodeContent? loose tag content else decodePart? loose tag rest

def decodeContent? (loose : Bool) (tag : String) : Json → Option Value
  | .array items =>
    if tag = "list" then (decodeItems? loose items).map list else ofScalar? tag (.array items)
  | .object entries =>
    if tag = "map" then (decodeEntries? loose entries).map (fun d => map d.toList)
    else ofScalar? tag (.object entries)
  | content => ofScalar? tag content

def decodeItems? (loose : Bool) : List Json → Option (List Value)
  | [] => some []
  | item :: rest =>
    match decodeAs? loose item, decodeItems? loose rest with
    | some v, some vs => some (v :: vs)
    | _, _ => none

def decodeEntries? (loose : Bool) : List (String × Json) → Option (Dict Value)
  | [] => some ∅
  | (key, item) :: rest =>
    match decodeAs? loose item, decodeEntries? loose rest with
    | some v, some d => some (d.insertNew key v)
    | _, _ => none

end

def decode? (j : Json) : Option Value := decodeAs? false j

def encodeDict (d : Dict Value) : Json := .ofDict (d.map encode)

example : decode? (encode (list [null, map [("a", artifact (.at "x"))]]))
    = some (list [null, map [("a", artifact (.at "x"))]]) := by decide

end Value

end Printworks
