import Printworks.Registry.Record

/-!
# Registries

A registry keeps records by key. Each of its operations is one step: nothing happens in between, so
that whoever uses several of them may meet the operations of others between any two. An operation
that fails writes nothing.
-/

namespace Printworks

class Registry (Store : Type) where
  get (key : String) (store : Store) : Except StoreError (Option Record) × Store
  contains (key : String) (store : Store) : Except StoreError Bool × Store
  put (key : String) (record : Record) (store : Store) : Except StoreError Unit × Store
  /-- Write a record if there is none. Gives whether it has been written. -/
  putIfAbsent (key : String) (record : Record) (store : Store) : Except StoreError Bool × Store
  /-- Write a record if the one that is there equals the expected one. Gives whether it has been
  written. -/
  compareAndPut (key : String) (expected record : Record) (store : Store) :
    Except StoreError Bool × Store

namespace Registry

inductive Request where
  | get (key : String)
  | contains (key : String)
  | put (key : String) (record : Record)
  | putIfAbsent (key : String) (record : Record)
  | compareAndPut (key : String) (expected record : Record)
  deriving DecidableEq, Inhabited

inductive Reply where
  | record (found : Option Record)
  /-- Whether there is a record, or whether one has been written. -/
  | flag (b : Bool)
  | done
  | failed (error : StoreError)
  deriving DecidableEq, Inhabited

/-- The reply that an outcome makes. -/
def reply {α Store : Type} (success : α → Reply) (outcome : Except StoreError α × Store) :
    Reply × Store :=
  match outcome with
  | (.ok a, store) => (success a, store)
  | (.error e, store) => (.failed e, store)

def serve {Store : Type} [Registry Store] (request : Request) (store : Store) : Reply × Store :=
  match request with
  | .get key => reply .record (get key store)
  | .contains key => reply .flag (contains key store)
  | .put key record => reply (fun _ => .done) (put key record store)
  | .putIfAbsent key record => reply .flag (putIfAbsent key record store)
  | .compareAndPut key expected record => reply .flag (compareAndPut key expected record store)

end Registry

end Printworks
