import Printworks.Graph.Basic
import Printworks.Hash.Sha256
import Printworks.Json.Printer

/-!
# Sharing graphs

Stages that are declared alike have one graph. A cache finds the graph of a declaration by the hash
of its document; every graph that it builds has a number of its own, so that one can tell a shared
graph from an equal one.
-/

namespace Printworks

namespace Graph

/-- The document of a list of stages. -/
def stagesDocument (stages : List StageSpec) : Json := .array (stages.map StageSpec.encode)

/-- The document of a declaration: its stages and attributes. -/
def declarationDocument (stages : List StageSpec) (attributes : Contract) : Json :=
  .object [("stages", stagesDocument stages), ("attributes", attributes.encode)]

/-- The hash of a declaration. -/
def fingerprint (stages : List StageSpec) (attributes : Contract) : String :=
  Sha256.hexDigest (declarationDocument stages attributes).compact

end Graph

structure SharedGraph where
  number : Nat
  graph : Graph
  deriving DecidableEq, Inhabited

/-- The graphs built so far and not forgotten, by the hashes of their declarations. -/
structure GraphCache where
  graphs : Dict SharedGraph
  /-- How many graphs have been built. -/
  built : Nat
  deriving DecidableEq, Inhabited

namespace GraphCache

def empty : GraphCache := ⟨∅, 0⟩

instance : EmptyCollection GraphCache := ⟨empty⟩

/-- The graph of a declaration: the one in the cache, or else a new one, which is kept. If the
declaration has errors the cache stays as it is. -/
def getOrBuild (cache : GraphCache) (stages : List StageSpec) (attributes : Contract)
    (suffixes : Suffixes) :
    Except (List GraphError) SharedGraph × GraphCache × Suffixes :=
  let key := Graph.fingerprint stages attributes
  match cache.graphs.get? key with
  | some shared => (.ok shared, cache, suffixes)
  | none =>
    match Graph.build stages attributes suffixes with
    | .error errors => (.error errors, cache, suffixes)
    | .ok (graph, suffixes) =>
      let shared := ⟨cache.built, graph⟩
      (.ok shared, ⟨cache.graphs.insert key shared, cache.built + 1⟩, suffixes)

def clear (cache : GraphCache) : GraphCache := { cache with graphs := ∅ }

def size (cache : GraphCache) : Nat := cache.graphs.size

end GraphCache

end Printworks
