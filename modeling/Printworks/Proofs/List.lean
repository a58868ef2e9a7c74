import Mathlib.Data.List.Forall2

/-!
# Lists

Runs are lists of moves or acts, and each of them comes behind all that have been before. What has
happened in a run has happened at one of its elements, after those that stand before it. And a list
that has been made element by element, with no error, has an original for each of its elements.
-/

namespace Printworks

universe u v w

/-- Where an element of two lists put together stands: in the first one, or in the second one. -/
theorem append_eq_append_cons {α : Type u} {old new l r : List α} {x : α}
    (eq : old ++ new = l ++ x :: r) :
    (∃ r', old = l ++ x :: r') ∨ (∃ l', l = old ++ l' ∧ new = l' ++ x :: r) := by
  -- Whether the element is old or new depends on which of the two first parts is longer.
  rcases List.append_eq_append_iff.mp eq with ⟨l', rfl, rest⟩ | ⟨r', rfl, rest⟩
  · exact .inr ⟨l', rfl, rest⟩
  · cases r' with
    | nil => exact .inr ⟨[], by simp, by simpa using rest.symm⟩
    | cons y r' =>
      cases rest
      exact .inl ⟨r', rfl⟩

/-- What has been the case at some element of a list has been so before its last one, or at that. -/
theorem exists_split_concat {α : Type u} {P : List α → α → Prop} {old : List α} {x : α} :
    (∃ l y r, old ++ [x] = l ++ y :: r ∧ P l y) ↔ (∃ l y r, old = l ++ y :: r ∧ P l y) ∨ P old x := by
  constructor
  · rintro ⟨l, y, r, eq, holds⟩
    rcases append_eq_append_cons eq with ⟨r', rfl⟩ | ⟨more, rfl, last⟩
    · exact .inl ⟨l, y, r', rfl, holds⟩
    · cases more with
      | nil =>
        cases last
        rw [List.append_nil] at holds
        exact .inr holds
      | cons _ _ => simp at last
  · rintro (⟨l, y, r, rfl, holds⟩ | holds)
    · exact ⟨l, y, r ++ [x], by simp, holds⟩
    · exact ⟨old, x, [], rfl, holds⟩

/-- An element of a list one place of which has been set is as before, or what has been set. -/
theorem getElem?_set_cases {α : Type u} {l : List α} {i k : Nat} {x y old : α}
    (there : l[i]? = some old) (now : (l.set i x)[k]? = some y) : l[k]? = some y ∨ i = k ∧ y = x := by
  rw [List.getElem?_set] at now
  split at now
  next same =>
    rw [if_pos (List.getElem?_eq_some_iff.mp there).1] at now
    exact .inr ⟨same, (Option.some.inj now).symm⟩
  next => exact .inl now

/-! ### Lists made element by element -/

section

variable {α : Type u} {β : Type v} {ε : Type w} {f : α → Except ε β} {xs : List α} {ys : List β}

/-- A list that has been made without an error has one element for each original, made of it. -/
theorem forall₂_of_mapM (made : xs.mapM f = .ok ys) :
    List.Forall₂ (fun x y => f x = .ok y) xs ys := by
  induction xs generalizing ys with
  | nil =>
    cases made
    exact .nil
  | cons x rest ih =>
    rw [List.mapM_cons] at made
    cases first : f x with
    | error e =>
      rw [first] at made
      cases made
    | ok z =>
      cases others : rest.mapM f with
      | error e =>
        rw [first, others] at made
        cases made
      | ok zs =>
        rw [first, others] at made
        cases made
        exact .cons first (ih others)

theorem exists_of_mapM (made : xs.mapM f = .ok ys) {y : β} (member : y ∈ ys) :
    ∃ x ∈ xs, f x = .ok y := by
  have related := forall₂_of_mapM made
  clear made
  induction related with
  | nil => cases member
  | cons first _ ih =>
    rcases List.mem_cons.mp member with rfl | later
    · exact ⟨_, List.mem_cons_self, first⟩
    · obtain ⟨original, inside, same⟩ := ih later
      exact ⟨original, List.mem_cons_of_mem _ inside, same⟩

/-- Where every element can be made into another, a list of them can. -/
theorem exists_mapM_eq_ok (each : ∀ x ∈ xs, ∃ y, f x = .ok y) :
    ∃ ys, xs.mapM f = .ok ys := by
  induction xs with
  | nil => exact ⟨[], rfl⟩
  | cons x rest ih =>
    obtain ⟨y, first⟩ := each x List.mem_cons_self
    obtain ⟨ys, others⟩ := ih (fun x member => each x (List.mem_cons_of_mem _ member))
    exact ⟨y :: ys, by rw [List.mapM_cons, first, others]; rfl⟩

end

end Printworks
