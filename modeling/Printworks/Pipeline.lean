import Printworks.Graph.Basic
import Printworks.Text.Quoted

/-!
# Pipelines

A pipeline pairs a graph with one implementation for each of its stages. What an implementation is
stays open here.
-/

namespace Printworks

universe u

structure StageCountMismatch where
  stages : Nat
  implementations : Nat
  deriving DecidableEq, Inhabited

def StageCountMismatch.message (e : StageCountMismatch) : String :=
  "pipeline has " ++ toString e.stages ++ " stages but " ++ toString e.implementations ++
    " implementations"

/-- A graph and the implementations of its stages, in order of declaration. -/
structure Pipeline (Implementation : Type u) where
  graph : Graph
  implementations : List Implementation
  sameLength : implementations.length = graph.size

namespace Pipeline

variable {Implementation : Type u}

/-- Pair a graph with implementations. -/
def pair (graph : Graph) (implementations : List Implementation) :
    Except StageCountMismatch (Pipeline Implementation) :=
  if h : implementations.length = graph.size then .ok ⟨graph, implementations, h⟩
  else .error ⟨graph.size, implementations.length⟩

def size (p : Pipeline Implementation) : Nat := p.implementations.length

def implementation? (p : Pipeline Implementation) (i : Nat) : Option Implementation :=
  p.implementations[i]?

/-- A pipeline in words: the names of its stages. -/
def describe (p : Pipeline Implementation) : String :=
  "Pipeline \x7b stages: " ++ Text.quotedList p.graph.stageNames ++ " \x7d"

end Pipeline

end Printworks
