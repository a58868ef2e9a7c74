import Printworks.Json.Schema

/-!
# Settings of an executor
-/

namespace Printworks

structure ExecutorConfig where
  /-- How many stages may run at once, over all executions. -/
  maxConcurrency : Nat
  deriving DecidableEq, Inhabited

namespace ExecutorConfig

def permits (c : ExecutorConfig) : Nat := max 1 c.maxConcurrency

def encode (c : ExecutorConfig) : Json := .object [("max_concurrency", .int c.maxConcurrency)]

def decode? (j : Json) : Option ExecutorConfig := do
  let f ← j.fields? ["max_concurrency"]
  return ⟨← f.required 0 Json.nat?⟩

end ExecutorConfig

end Printworks
