import Printworks.Registry.Basic

/-!
# A registry that fails

A registry may be out of order, or refuse conditional writes for a while.
-/

namespace Printworks.Registry

/-- A store whose registry does not always work. -/
structure Faulty (Store : Type) where
  store : Store
  /-- How many of the next conditional writes fail. -/
  failures : Nat
  /-- Whether every operation fails. -/
  down : Bool
  deriving DecidableEq, Inhabited

namespace Faulty

variable {Store : Type}

/-- A store whose registry works. -/
def working (store : Store) : Faulty Store := ⟨store, 0, false⟩

/-- The error of an operation while the registry is out of order. -/
def downError (key : String) : StoreError := .corrupt key "registry down"

/-- The error of a conditional write that fails. -/
def writeError (key : String) : StoreError := .corrupt key "registry unavailable"

/-- Do something with the store, unless the registry is out of order. -/
def attempt {α : Type} (key : String) (f : Faulty Store)
    (operation : Store → Except StoreError α × Store) : Except StoreError α × Faulty Store :=
  if f.down then (.error (downError key), f)
  else
    let (result, store) := operation f.store
    (result, { f with store := store })

instance [Registry Store] : Registry (Faulty Store) where
  get key f := f.attempt key (Registry.get key)
  contains key f := f.attempt key (Registry.contains key)
  put key record f := f.attempt key (Registry.put key record)
  putIfAbsent key record f := f.attempt key (Registry.putIfAbsent key record)
  compareAndPut key expected record f :=
    match f.down, f.failures with
    | false, failures + 1 => (.error (writeError key), { f with failures := failures })
    | _, _ => f.attempt key (Registry.compareAndPut key expected record)

end Faulty

end Printworks.Registry
