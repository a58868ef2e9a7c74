import Printworks.Registry.Record
import Printworks.Proofs.Dict

/-!
# Comparing records

The comparison of records tells all documents apart but the two zeros among the doubles. On records
without doubles it is equality.
-/

namespace Printworks

/-- A plain value that is neither null nor a double. -/
def Json.IsExact (j : Json) : Prop :=
  match j with
  | .bool _ => True
  | .number (.int _) => True
  | .text _ => True
  | _ => False

namespace Record

/-- All values are plain, and none is null or a double. -/
def IsExact (r : Record) : Prop := ∀ e ∈ r.toList, e.2.IsExact

theorem isPlain_of_isExact {j : Json} (exact_ : j.IsExact) : j.isPlain = true := by
  cases j with
  | null => exact exact_.elim
  | bool => rfl
  | number => rfl
  | text => rfl
  | array => exact exact_.elim
  | object => exact exact_.elim

/-- An exact value agrees with itself alone. -/
theorem agrees_iff_eq {a b : Json} (exact_ : a.IsExact) : a.agrees b = true ↔ a = b := by
  cases a with
  | null => exact exact_.elim
  | bool x => cases b <;> simp [Json.agrees]
  | number x =>
    cases x with
    | int n =>
      cases b with
      | number y => cases y <;> simp [Json.agrees, JsonNumber.agrees]
      | _ => simp [Json.agrees]
    | double x => exact exact_.elim
  | text x => cases b <;> simp [Json.agrees]
  | array => exact exact_.elim
  | object => exact exact_.elim

/-- A value agrees with an exact one only if it is that one. -/
theorem eq_of_agrees_exact {a b : Json} (exact_ : b.IsExact) (agrees : a.agrees b = true) :
    a = b := by
  cases b with
  | null => exact exact_.elim
  | bool x => cases a <;> simp_all [Json.agrees]
  | number y =>
    cases y with
    | int n =>
      cases a with
      | number x => cases x <;> simp_all [Json.agrees, JsonNumber.agrees]
      | _ => simp [Json.agrees] at agrees
    | double y => exact exact_.elim
  | text x => cases a <;> simp_all [Json.agrees]
  | array => exact exact_.elim
  | object => exact exact_.elim

private theorem agreesEntries_iff_eq {a b : List (String × Json)}
    (tells : ∀ e ∈ a, ∀ e' ∈ b, e.2.agrees e'.2 = true ↔ e.2 = e'.2) :
    Json.agreesEntries a b = true ↔ a = b := by
  induction a generalizing b with
  | nil => cases b <;> simp [Json.agreesEntries]
  | cons head rest ih =>
    cases b with
    | nil => simp [Json.agreesEntries]
    | cons head' rest' =>
      obtain ⟨k, v⟩ := head
      obtain ⟨l, w⟩ := head'
      have first : v.agrees w = true ↔ v = w :=
        tells (k, v) List.mem_cons_self (l, w) List.mem_cons_self
      have others := ih (fun e member e' member' =>
        tells e (List.mem_cons_of_mem _ member) e' (List.mem_cons_of_mem _ member'))
      simp [Json.agreesEntries, first, others]

private theorem agrees_iff_of_tells {a b : Record}
    (tells : ∀ e ∈ a.toList, ∀ e' ∈ b.toList, e.2.agrees e'.2 = true ↔ e.2 = e'.2) :
    a.agrees b = true ↔ a = b := by
  rw [agrees, agreesEntries_iff_eq tells]
  exact ⟨Dict.ext, fun eq => eq ▸ rfl⟩

theorem IsExact.agrees_iff {a b : Record} (exact_ : a.IsExact) : a.agrees b = true ↔ a = b :=
  agrees_iff_of_tells (fun e member _ _ => agrees_iff_eq (exact_ e member))

/-- A record agrees with an exact one only if it is that one. -/
theorem IsExact.agrees_iff_right {a b : Record} (exact_ : b.IsExact) :
    a.agrees b = true ↔ a = b :=
  agrees_iff_of_tells (fun _ _ e' member' =>
    ⟨eq_of_agrees_exact (exact_ e' member'),
      fun eq => eq ▸ (agrees_iff_eq (eq ▸ exact_ e' member')).mpr rfl⟩)

theorem IsExact.ensureFlat {r : Record} (exact_ : r.IsExact) : ensureFlat r = .ok () := by
  have none : nestedField? r = none := by
    rw [nestedField?, Option.map_eq_none_iff, List.find?_eq_none]
    intro e member
    simp [isPlain_of_isExact (exact_ e member)]
  simp [Record.ensureFlat, none]

theorem IsExact.ifFlat {Store α : Type} {r : Record} (exact_ : r.IsExact) (store : Store)
    (result : Except StoreError α × Store) : r.ifFlat store result = result := by
  simp [Record.ifFlat, exact_.ensureFlat]

end Record

end Printworks
