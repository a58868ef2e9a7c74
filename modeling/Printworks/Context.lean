import Printworks.Suffixes
import Printworks.Value.Basic

/-!
# The values that stages share

A context holds values by name. A name is written once: a second write of it fails, unless the
value is internal, which is stored under a free name instead.
-/

namespace Printworks

inductive ContextError where
  | alreadyWritten (name : String)
  | notAvailable (name : String)
  deriving DecidableEq, Inhabited

def ContextError.message (e : ContextError) : String :=
  match e with
  | alreadyWritten name => s!"'{name}' has already been written"
  | notAvailable name => s!"'{name}' is not available"

structure Write where
  name : String
  value : Value
  /-- Whether the value may be stored under another name. -/
  internal : Bool
  deriving DecidableEq, Inhabited

structure Context where
  values : Dict Value
  suffixes : Suffixes

instance : Inhabited Context := ⟨⟨∅, default⟩⟩

namespace Context

/-- Why a write fails, and the context that it leaves. -/
structure Refusal where
  error : ContextError
  context : Context

/-- Where the context does not matter a refusal stands for its reason. -/
instance : Coe Refusal ContextError := ⟨Refusal.error⟩

def get (c : Context) (name : String) : Except ContextError Value :=
  match c.values.get? name with
  | some v => .ok v
  | none => .error (.notAvailable name)

def contains (c : Context) (name : String) : Bool := c.values.contains name

def size (c : Context) : Nat := c.values.size

def isEmpty (c : Context) : Bool := c.values.isEmpty

def put (c : Context) (name : String) (value : Value) : Except Refusal Context :=
  if c.contains name then .error ⟨.alreadyWritten name, c⟩
  else .ok { c with values := c.values.insert name value }

/-- Store a value under a name, or under a free name with a suffix. Gives the name. -/
def putInternal (c : Context) (name : String) (value : Value) : String × Context :=
  let (stored, suffixes) := Suffixes.fresh c.values.keys name c.suffixes
  (stored, ⟨c.values.insert stored value, suffixes⟩)

/-- Store one value. Gives the name under which it is stored. -/
def store (c : Context) (w : Write) : String × Context :=
  if w.internal then c.putInternal w.name w.value
  else (w.name, { c with values := c.values.insert w.name w.value })

def storeAll (c : Context) (writes : List Write) : List String × Context :=
  match writes with
  | [] => ([], c)
  | w :: rest =>
    let (name, c) := c.store w
    let (names, c) := c.storeAll rest
    (name :: names, c)

/-- The first value that may not give way and whose name is taken. -/
def conflict? (c : Context) (writes : List Write) : Option Write :=
  writes.find? (fun w => !w.internal && c.contains w.name)

/-- Store all values of a stage, or none of them if the name of one is taken. -/
def commit (c : Context) (writes : List Write) : Except Refusal (List String × Context) :=
  -- All names are looked at before anything is stored, so a failure leaves the context as it was.
  match c.conflict? writes with
  | some w => .error ⟨.alreadyWritten w.name, c⟩
  | none => .ok (c.storeAll writes)

end Context

end Printworks
