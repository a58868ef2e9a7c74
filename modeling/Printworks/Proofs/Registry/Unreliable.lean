import Printworks.Registry.Memory
import Printworks.Proofs.Registry.Record

/-!
# A registry in memory that may fail at any time

Whoever uses the registry once is told before whether that use fails, and with which error. What an
operation does is stated for registries that hold exact records: a conditional write replaces the
very record that was expected.
-/

namespace Printworks.Registry

/-- A store, and the error of its next use if that fails. -/
structure Unreliable (Store : Type) where
  store : Store
  failure : Option StoreError

namespace Unreliable

variable {Store : Type}

/-- Use the store, unless that fails. -/
def attempt {α : Type} (u : Unreliable Store)
    (operation : Store → Except StoreError α × Store) : Except StoreError α × Unreliable Store :=
  match u.failure with
  | some error => (.error error, u)
  | none =>
    let (result, store) := operation u.store
    (result, { u with store := store })

instance [Registry Store] : Registry (Unreliable Store) where
  get key u := u.attempt (Registry.get key)
  contains key u := u.attempt (Registry.contains key)
  put key record u := u.attempt (Registry.put key record)
  putIfAbsent key record u := u.attempt (Registry.putIfAbsent key record)
  compareAndPut key expected record u := u.attempt (Registry.compareAndPut key expected record)

variable {u u' : Unreliable Memory} {key : String}

theorem get_spec {result : Except StoreError (Option Record)}
    (h : Registry.get key u = (result, u')) :
    u' = u ∧ ∀ found, result = .ok found → u.store.records.get? key = found := by
  obtain ⟨memory, failure⟩ := u
  cases failure with
  | some error =>
    cases h
    exact ⟨rfl, by simp⟩
  | none =>
    cases h
    exact ⟨rfl, by rintro found ⟨rfl⟩; rfl⟩

/-- A conditional write that has written its record has found what it expected under the key, and any
other has changed nothing. -/
structure Writes (key : String) (expected : Option Record) (record : Record)
    (result : Except StoreError Bool) (u u' : Unreliable Memory) : Prop where
  written : result = .ok true →
    u.store.records.get? key = expected ∧ u'.store = u.store.write key record
  unchanged : result ≠ .ok true → u' = u

theorem writes_failed {expected : Option Record} {record : Record} (error : StoreError)
    (u : Unreliable Memory) : Writes key expected record (.error error) u u :=
  ⟨by simp, fun _ => rfl⟩

theorem writes_refused {expected : Option Record} {record : Record} (u : Unreliable Memory) :
    Writes key expected record (.ok false) u u :=
  ⟨by simp, fun _ => rfl⟩

theorem putIfAbsent_spec {record : Record} (exact_ : record.IsExact)
    {result : Except StoreError Bool} (h : Registry.putIfAbsent key record u = (result, u')) :
    Writes key none record result u u' := by
  obtain ⟨memory, failure⟩ := u
  cases failure with
  | some error =>
    cases h
    exact writes_failed error _
  | none =>
    simp only [Registry.putIfAbsent, attempt, exact_.ifFlat] at h
    split at h
    next => cases h; exact writes_refused _
    next absent =>
      cases h
      exact ⟨fun _ => ⟨by simpa [Dict.contains] using absent, rfl⟩, fun ne => absurd rfl ne⟩

/-- A conditional write does what it should if no other record agrees with the expected one. -/
theorem compareAndPut_writes {expected record : Record} (exact_ : record.IsExact)
    (tells : ∀ current, u.store.records.get? key = some current →
      current.agrees expected = true → current = expected)
    {result : Except StoreError Bool}
    (h : Registry.compareAndPut key expected record u = (result, u')) :
    Writes key (some expected) record result u u' := by
  obtain ⟨memory, failure⟩ := u
  cases failure with
  | some error =>
    cases h
    exact writes_failed error _
  | none =>
    simp only [Registry.compareAndPut, attempt, exact_.ifFlat] at h
    split at h
    next holds =>
      cases h
      obtain ⟨current, found, agrees⟩ := (Option.any_eq_true _ _).mp holds
      have same := tells current found agrees
      exact ⟨fun _ => ⟨same ▸ found, rfl⟩, fun ne => absurd rfl ne⟩
    next => cases h; exact writes_refused _

theorem compareAndPut_spec {expected record : Record} (exact_ : record.IsExact)
    (stored : ∀ current, u.store.records.get? key = some current → current.IsExact)
    {result : Except StoreError Bool}
    (h : Registry.compareAndPut key expected record u = (result, u')) :
    Writes key (some expected) record result u u' :=
  -- Records agree that differ in the sign of a zero; an exact one agrees with itself only.
  compareAndPut_writes exact_ (fun current found => (stored current found).agrees_iff.mp) h

/-- A conditional write that is refused has not found what it expects. -/
theorem compareAndPut_refused {expected record : Record} (exact_ : record.IsExact)
    (self : expected.agrees expected = true)
    (h : Registry.compareAndPut key expected record u = (.ok false, u')) :
    u.store.records.get? key ≠ some expected := by
  intro there
  obtain ⟨memory, failure⟩ := u
  cases failure with
  | some error => cases h
  | none =>
    have holds : memory.holds key expected = true := by
      rw [Memory.holds, there, Option.any_some]
      exact self
    simp [Registry.compareAndPut, attempt, exact_.ifFlat, holds] at h

/-! What happens when it is known whether the use fails. -/

theorem get_failing {error : StoreError} (fails : u.failure = some error) :
    Registry.get key u = (.error error, u) := by
  obtain ⟨memory, failure⟩ := u
  subst fails
  rfl

theorem get_working (works : u.failure = none) :
    Registry.get key u = (.ok (u.store.records.get? key), u) := by
  obtain ⟨memory, failure⟩ := u
  subst works
  rfl

theorem compareAndPut_failing {expected record : Record} {error : StoreError}
    (fails : u.failure = some error) :
    Registry.compareAndPut key expected record u = (.error error, u) := by
  obtain ⟨memory, failure⟩ := u
  subst fails
  rfl

/-- A conditional write that works and finds what it expects writes its record. -/
theorem compareAndPut_found {expected record : Record} (exact_ : record.IsExact)
    (known : expected.IsExact) (works : u.failure = none)
    (there : u.store.records.get? key = some expected) :
    Registry.compareAndPut key expected record u =
      (.ok true, { u with store := u.store.write key record }) := by
  obtain ⟨memory, failure⟩ := u
  subst works
  have holds : memory.holds key expected = true := by
    rw [Memory.holds, there, Option.any_some]
    exact known.agrees_iff.mpr rfl
  simp only [Registry.compareAndPut, attempt, exact_.ifFlat, holds, if_true]

end Unreliable

end Printworks.Registry
