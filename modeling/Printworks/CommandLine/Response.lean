/-!
# Responses

What a run of the program leaves behind: an exit code and the texts on the two outputs. A failure
is a sentence and the causes behind it, from the nearest to the farthest.
-/

namespace Printworks.CommandLine

structure Response where
  exit : Nat
  output : String
  errors : String
  deriving DecidableEq, Inhabited

structure Failure where
  message : String
  causes : List String
  deriving DecidableEq, Inhabited

namespace Failure

def plain (message : String) : Failure := ⟨message, []⟩

def indented (indent text : String) : String := ("\n" ++ indent).intercalate (text.splitOn "\n")

def numbered (cause : String) (n : Nat) : String :=
  let number := toString n
  "".pushn ' ' (5 - number.length) ++ number ++ ": " ++ indented "       " cause ++ "\n"

/-- The lines of the causes. A single one has no number. -/
def causeLines (causes : List String) : String :=
  match causes with
  | [] => ""
  | [cause] => "\nCaused by:\n    " ++ indented "    " cause ++ "\n"
  | causes => "\nCaused by:\n" ++ "".intercalate (causes.zipIdx.map (fun c => numbered c.1 c.2))

def text (f : Failure) : String := "Error: " ++ f.message ++ "\n" ++ causeLines f.causes

end Failure

namespace Response

def success (output : String) : Response := ⟨0, output, ""⟩

def failure (f : Failure) : Response := ⟨1, "", f.text⟩

/-- Lines that have been written to the output for errors before. -/
def after (lines : List String) (o : Response) : Response :=
  { o with errors := "".intercalate (lines.map (· ++ "\n")) ++ o.errors }

end Response

end Printworks.CommandLine
