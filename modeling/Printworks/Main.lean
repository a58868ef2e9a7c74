import Std.Time.DateTime.Timestamp
import Printworks.CommandLine.Run

/-!
# The program

Gathers what a command finds around it, runs the command, and writes what it leaves behind.
-/

namespace Printworks.CommandLine

def systemError (e : IO.Error) : String :=
  match e with
  | .noFileOrDirectory _ _ _ => "No such file or directory (os error 2)"
  | .permissionDenied _ _ _ => "Permission denied (os error 13)"
  | .inappropriateType _ _ _ => "Is a directory (os error 21)"
  | e => toString e

def readText (path : String) : IO (Except String String) := do
  try
    return .ok (← IO.FS.readFile path)
  catch e => return .error (systemError e)

/-- The registry in a file, which holds the document of its table. -/
def openRegistry (path : String) : IO (Option (Except (List String) Registry.Table)) := do
  try
    let text ← IO.FS.readFile path
    match (Json.read? text).bind Registry.Table.decode? with
    | some table => return some (.ok table)
    | none => return some (.error ["file is not a registry"])
  catch e =>
    match e with
    | .noFileOrDirectory _ _ _ => return none
    | e => return some (.error [systemError e])

def readInput : IO (Except String String) := do
  let input ← IO.getStdin
  if ← input.isTty then return .ok ""
  try
    return .ok (← input.readToEnd)
  catch e => return .error (systemError e)

/-- The files that a command reads. -/
def filesOf (i : Invocation) : List String :=
  match i.command with
  | .validate file => [file]
  | .bind file => [file]
  | _ => []

/-- The registries that a command opens. -/
def registriesOf (home : Option String) (i : Invocation) : List String :=
  match i.command, i.dataFolder <|> home.map (inFolder · ".cartograph") with
  | .status _ _ _, some folder => [inFolder folder "registry.db"]
  | _, _ => []

/-- Whether a command reads the input. -/
def wantsInput (i : Invocation) : Bool := i.command matches .bind _

def gather (i : Invocation) : IO Surroundings := do
  let home ← IO.getEnv "HOME"
  let files ← (filesOf i).mapM (fun path => do return (path, ← readText path))
  let registries ← (registriesOf home i).mapM (fun path => do return (path, ← openRegistry path))
  let input ← if wantsInput i then readInput else pure (.ok "")
  let now ← Std.Time.Timestamp.now
  return {
    home := home
    readFile := fun path => (Entries.find? files path).getD (.error "not found")
    registry := fun path => (Entries.find? registries path).join
    input := input
    now := .ofMillis now.toMillisecondsSinceUnixEpoch.toInt }

/-- What arguments lead to. -/
def perform (args : List String) : IO Response :=
  match Invocation.read args with
  | .ok i => return i.run (← gather i)
  | .error refusal => return refuse refusal

end Printworks.CommandLine

open Printworks.CommandLine in
def main (args : List String) : IO UInt32 := do
  let response ← perform args
  IO.print response.output
  IO.eprint response.errors
  return response.exit.toUInt32
