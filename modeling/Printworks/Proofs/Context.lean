import Printworks.Context
import Printworks.Proofs.Suffixes

/-!
# What a commit does

The values of a stage are stored together or not at all, and nothing from before is replaced. Values
that may not give way are stored under their own names.
-/

namespace Printworks.Context

theorem putInternal_new (c : Context) (name : String) (value : Value) :
    c.values.get? (c.putInternal name value).1 = none := by
  have fresh := Suffixes.fresh_not_mem c.values.keys name c.suffixes
  rw [Dict.mem_keys] at fresh
  exact Option.not_isSome_iff_eq_none.mp fresh

theorem putInternal_of_free {c : Context} {name : String} (free : c.values.get? name = none)
    (value : Value) :
    c.putInternal name value = (name, { c with values := c.values.insert name value }) := by
  have unused : name ∉ c.values.keys := by
    rw [Dict.mem_keys, free]
    simp
  rw [putInternal, Suffixes.fresh_of_not_mem _ unused]

theorem store_eq (c : Context) (w : Write) :
    (c.store w).2.values = c.values.insert (c.store w).1 w.value := by
  unfold store
  split <;> rfl

theorem store_plain (c : Context) {w : Write} (plain : w.internal = false) :
    (c.store w).1 = w.name := by
  simp [store, plain]

theorem store_internal (c : Context) {w : Write} (internal : w.internal = true) :
    c.values.get? (c.store w).1 = none := by
  rw [store, if_pos internal]
  exact putInternal_new c w.name w.value

/-- The name of a value is free in what is kept, if it is so for a value that may not give way. -/
theorem store_new {base : Dict Value} {c : Context} (h : base.Within c.values) (w : Write)
    (free : w.internal = false → base.get? w.name = none) : base.get? (c.store w).1 = none := by
  cases kind : w.internal with
  | false =>
    rw [store_plain c kind]
    exact free kind
  | true =>
    -- The name given is free in all that has been stored, which is no less than what is kept.
    cases found : base.get? (c.store w).1 with
    | none => rfl
    | some v => exact absurd (h _ v found) (by rw [store_internal c kind]; simp)

theorem store_within {base : Dict Value} {c : Context} (h : base.Within c.values) (w : Write)
    (free : w.internal = false → base.get? w.name = none) :
    base.Within (c.store w).2.values := by
  rw [store_eq]
  exact h.insert (store_new h w free) w.value

theorem storeAll_within {base : Dict Value} {c : Context} (h : base.Within c.values)
    {writes : List Write} (free : ∀ w ∈ writes, w.internal = false → base.get? w.name = none) :
    base.Within (c.storeAll writes).2.values := by
  induction writes generalizing c with
  | nil => exact h
  | cons w rest ih =>
    exact ih (store_within h w (free w List.mem_cons_self))
      (fun w member => free w (List.mem_cons_of_mem _ member))

/-- A commit succeeds exactly if no name that may not give way is taken. -/
theorem conflict?_eq_none {c : Context} {writes : List Write} :
    c.conflict? writes = none ↔ ∀ w ∈ writes, w.internal = false → c.values.get? w.name = none := by
  rw [conflict?, List.find?_eq_none]
  refine forall₂_congr (fun w _ => ?_)
  simp [contains, Dict.contains]

/-- A value that is refused is not stored: its name is taken. -/
theorem put_refused {c : Context} {name : String} {value : Value} {refusal : Refusal}
    (h : c.put name value = .error refusal) :
    refusal.context = c ∧ c.contains name = true ∧ refusal.error = .alreadyWritten name := by
  unfold put at h
  split at h
  next taken =>
    cases h
    exact ⟨rfl, taken, rfl⟩
  next => cases h

/-- A commit that is refused stores nothing: the name of a value is taken that may not give way. -/
theorem commit_refused {c : Context} {writes : List Write} {refusal : Refusal}
    (h : c.commit writes = .error refusal) :
    refusal.context = c ∧ ∃ w ∈ writes, w.internal = false ∧ c.contains w.name = true ∧
      refusal.error = .alreadyWritten w.name := by
  unfold commit at h
  split at h
  next w conflict =>
    cases h
    have taken := List.find?_some conflict
    simp only [Bool.and_eq_true, Bool.not_eq_true'] at taken
    exact ⟨rfl, w, List.mem_of_find?_eq_some conflict, taken.1, taken.2, rfl⟩
  next => cases h

theorem commit_within {c after : Context} {writes : List Write} {names : List String}
    (h : c.commit writes = .ok (names, after)) : c.values.Within after.values := by
  unfold commit at h
  split at h
  next => cases h
  next free =>
    have stored : (c.storeAll writes).2 = after := congrArg Prod.snd (Except.ok.inj h)
    rw [← stored]
    exact storeAll_within (Dict.Within.refl _) (conflict?_eq_none.mp free)

/-- Values are stored under their own names if those that may give way find them free and no name is
given twice. -/
theorem storeAll_of_free {c : Context} {writes : List Write}
    (free : ∀ w ∈ writes, w.internal = true → c.values.get? w.name = none)
    (distinct : (writes.map (·.name)).Nodup) :
    c.storeAll writes = (writes.map (·.name),
      { c with values := writes.foldl (fun d w => d.insert w.name w.value) c.values }) := by
  induction writes generalizing c with
  | nil => rfl
  | cons w rest ih =>
    obtain ⟨new, distinct⟩ := List.nodup_cons.mp distinct
    have first : c.store w = (w.name, { c with values := c.values.insert w.name w.value }) := by
      rw [store]
      split
      next internal =>
        exact putInternal_of_free (free w List.mem_cons_self internal) w.value
      next => rfl
    have free' : ∀ x ∈ rest, x.internal = true →
        (c.values.insert w.name w.value).get? x.name = none := by
      intro x member internal
      have ne : w.name ≠ x.name := fun same => new (List.mem_map.mpr ⟨x, member, same.symm⟩)
      rw [Dict.get?_insert_ne _ _ ne]
      exact free x (List.mem_cons_of_mem _ member) internal
    rw [storeAll, first]
    simp only [ih (c := { c with values := c.values.insert w.name w.value }) free' distinct]
    rfl

theorem get?_storeAll {c : Context} {writes : List Write}
    (free : ∀ w ∈ writes, w.internal = true → c.values.get? w.name = none)
    (distinct : (writes.map (·.name)).Nodup) (name : String) :
    (c.storeAll writes).2.values.get? name =
      (Entries.find? (writes.map (fun w => (w.name, w.value))) name).or (c.values.get? name) := by
  have entries : writes.foldl (fun d w => d.insert w.name w.value) c.values =
      (writes.map (fun w => (w.name, w.value))).foldl (fun d e => d.insert e.1 e.2) c.values := by
    rw [List.foldl_map]
  rw [storeAll_of_free free distinct]
  simp only [entries]
  exact Dict.get?_foldl_insert _ _ _ (by rwa [List.map_map])

end Printworks.Context
