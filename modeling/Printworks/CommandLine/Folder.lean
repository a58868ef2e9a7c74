import Printworks.CommandLine.Run

/-!
# Folders as data

A folder given by its files, in which the program can be run. Of what lies outside it, only the
folders around it are known. A path is followed step by step, so that every step but the last has to
lead to a folder, also one that the next step leaves again.
-/

namespace Printworks.CommandLine

/-- Why a path does not lead to the text of a file. -/
inductive PathError where
  | missing
  | throughFile
  | nameTooLong
  | isFolder
  | notText
  deriving DecidableEq, Inhabited

def PathError.message (e : PathError) : String :=
  match e with
  | missing => "No such file or directory (os error 2)"
  | throughFile => "Not a directory (os error 20)"
  | nameTooLong => "File name too long (os error 36)"
  | isFolder => "Is a directory (os error 21)"
  | notText => "stream did not contain valid UTF-8"

structure Folder where
  files : List (List String × String)
  /-- The registry in the folder, with the steps of its path. -/
  registry : Option (List String × Registry.Table)
  deriving Inhabited

inductive Place where
  /-- A folder in the folder, or itself. -/
  | folder (steps : List String)
  /-- A folder around the folder. -/
  | around
  | file (text : String)
  | registry (table : Registry.Table)
  deriving Inhabited

/-- How many bytes the name of a file may have. -/
def nameMax : Nat := 255

/-- How many bytes a path may have. -/
def pathMax : Nat := 4095

namespace Folder

/-- The folder of some files by their paths in it. -/
def ofFiles (files : List (String × String)) (registry : Option (List String × Registry.Table)) :
    Folder :=
  ⟨files.map (fun e => ((e.1.splitOn "/").filter (fun s => s != "" && s != "."), e.2)), registry⟩

def paths (f : Folder) : List (List String) := f.files.map (·.1) ++ (f.registry.map (·.1)).toList

def place? (f : Folder) (steps : List String) : Option Place :=
  match f.files.find? (fun e => e.1 == steps), f.registry.filter (fun e => e.1 == steps) with
  | some (_, text), _ => some (.file text)
  | none, some (_, table) => some (.registry table)
  | none, none =>
    if f.paths.any (fun p => steps.isPrefixOf p && p != steps) then some (.folder steps) else none

def step (f : Folder) (place : Place) (name : String) : Except PathError Place :=
  match place with
  | .file _ => .error .throughFile
  | .registry _ => .error .throughFile
  | place =>
    if name = "" ∨ name = "." then .ok place
    else if name = ".." then
      match place with
      | .folder (first :: rest) => .ok (.folder (first :: rest).dropLast)
      | _ => .ok .around
    else if nameMax < name.utf8ByteSize then .error .nameTooLong
    else
      match place with
      | .folder steps => ((f.place? (steps ++ [name])).map .ok).getD (.error .missing)
      | _ => .error .missing

/-- Where a path leads. -/
def locate (f : Folder) (path : String) : Except PathError Place :=
  if pathMax < path.utf8ByteSize then .error .nameTooLong
  else (path.splitOn "/").foldlM f.step (if path.startsWith "/" then .around else .folder [])

def readFile (f : Folder) (path : String) : Except PathError String :=
  match f.locate path with
  | .error e => .error e
  | .ok (.file text) => .ok text
  | .ok (.registry _) => .error .notText
  | .ok _ => .error .isFolder

/-- A cause and all that it brings about, each with some words before the next one. -/
def causes (words : List String) (cause : String) : List String :=
  match words with
  | [] => [cause]
  | before :: rest =>
    let behind := causes rest cause
    (before ++ behind.headD "") :: behind

/-- The causes of a failure to open a folder as a registry. -/
def folderCauses : List String :=
  causes ["database error: ", "error returned from database: "]
    "(code: 14) unable to open database file"

/-- The causes of a failure to open any other file as a registry. -/
def textCauses : List String :=
  causes ["migration error: ", "while executing migrations: ", "error returned from database: "]
    "(code: 26) file is not a database"

/-- The registry at a path, if there is anything. A file of one byte or none is an empty registry. -/
def registryAt (f : Folder) (path : String) : Option (Except (List String) Registry.Table) :=
  match f.locate path with
  | .error _ => none
  | .ok (.registry table) => some (.ok table)
  | .ok (.file text) =>
    if text.utf8ByteSize ≤ 1 then some (.ok .empty)
    else some (.error textCauses)
  | .ok _ => some (.error folderCauses)

def surroundings (f : Folder) (input : String) (now : Instant) : Surroundings where
  home := some "."
  readFile path := (f.readFile path).mapError PathError.message
  registry := f.registryAt
  input := .ok input
  now := now

end Folder

end Printworks.CommandLine
