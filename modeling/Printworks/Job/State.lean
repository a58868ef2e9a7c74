import Printworks.Value.Tagged

/-!
# States of jobs

A job is pending until it reaches one of three final states.
-/

namespace Printworks

inductive JobState where
  | pending (running : Bool)
  | success (artifact : Artifact)
  | failure (error : String)
  | cancelled
  deriving DecidableEq, Inhabited

namespace JobState

def isTerminal (s : JobState) : Bool := !(s matches pending _)

def word (s : JobState) : String :=
  match s with
  | pending false => "pending"
  | pending true => "running"
  | success _ => "success"
  | failure _ => "failure"
  | cancelled => "cancelled"

def entries (s : JobState) : List (String × Json) :=
  match s with
  | pending running => [("state", .text "pending"), ("running", .bool running)]
  | success artifact => [("state", .text "success"), ("artifact", artifact.encode)]
  | failure error => [("state", .text "failure"), ("error", .text error)]
  | cancelled => [("state", .text "cancelled")]

end JobState

end Printworks
