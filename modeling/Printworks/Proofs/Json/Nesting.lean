import Printworks.Json.Schema
import Printworks.Proofs.Json.ReadBack

/-!
# How deep the brackets of what is read are nested

The reader opens no more brackets at once than there is room for, whatever the text is. So a document
that has been read is not nested deeper than the limit.
-/

namespace Printworks.Json

/-- Whether nothing that is read with some fuel is nested deeper than there is room for. -/
structure StaysWithin (fuel : Nat) : Prop where
  value {depth : Nat} {cs rest : List Char} {j : Json} :
    readValue? fuel depth cs = some (j, rest) → j.nesting ≤ depth
  items {depth : Nat} {cs rest : List Char} {items : List Json} :
    readItems? fuel depth cs = some (items, rest) → nestingItems items ≤ depth
  entries {depth : Nat} {cs rest : List Char} {entries : List (String × Json)} :
    readEntries? fuel depth cs = some (entries, rest) → nestingEntries entries ≤ depth

namespace StaysWithin

variable {fuel depth : Nat} {cs rest : List Char}

theorem value_step (h : StaysWithin fuel) {j : Json}
    (read : readValue? (fuel + 1) depth cs = some (j, rest)) : j.nesting ≤ depth := by
  rw [readValue?] at read
  split at read
  next =>
    split at read
    next => cases read
    next depth =>
      split at read
      next =>
        cases read
        exact Nat.succ_le_succ (Nat.zero_le depth)
      next =>
        obtain ⟨⟨items, after⟩, inner, eq⟩ := Option.map_eq_some_iff.mp read
        cases eq
        exact Nat.succ_le_succ (h.items inner)
  next =>
    split at read
    next => cases read
    next depth =>
      split at read
      next =>
        cases read
        exact Nat.succ_le_succ (Nat.zero_le depth)
      next =>
        obtain ⟨⟨entries, after⟩, inner, eq⟩ := Option.map_eq_some_iff.mp read
        cases eq
        exact Nat.succ_le_succ (h.entries inner)
  -- Everything else opens no bracket.
  all_goals
    obtain ⟨_, -, eq⟩ := Option.map_eq_some_iff.mp read
    cases eq
    exact Nat.zero_le depth

theorem items_step (h : StaysWithin fuel) {items : List Json}
    (read : readItems? (fuel + 1) depth cs = some (items, rest)) : nestingItems items ≤ depth := by
  rw [readItems?] at read
  split at read
  next => cases read
  next item _ first =>
    have own := h.value first
    split at read
    next =>
      cases read
      exact Nat.max_le.mpr ⟨own, Nat.zero_le depth⟩
    next =>
      obtain ⟨⟨others, after⟩, more, eq⟩ := Option.map_eq_some_iff.mp read
      cases eq
      exact Nat.max_le.mpr ⟨own, h.items more⟩
    next => cases read

theorem entries_step (h : StaysWithin fuel) {entries : List (String × Json)}
    (read : readEntries? (fuel + 1) depth cs = some (entries, rest)) :
    nestingEntries entries ≤ depth := by
  rw [readEntries?] at read
  split at read
  next => cases read
  next name _ _ =>
    split at read
    next => cases read
    next item _ first =>
      have own := h.value first
      split at read
      next =>
        cases read
        exact Nat.max_le.mpr ⟨own, Nat.zero_le depth⟩
      next =>
        obtain ⟨⟨others, after⟩, more, eq⟩ := Option.map_eq_some_iff.mp read
        cases eq
        exact Nat.max_le.mpr ⟨own, h.entries more⟩
      next => cases read

end StaysWithin

theorem staysWithin (fuel : Nat) : StaysWithin fuel := by
  induction fuel with
  | zero =>
    refine ⟨fun read => ?_, fun read => ?_, fun read => ?_⟩
    · rw [readValue?] at read
      cases read
    · rw [readItems?] at read
      cases read
    · rw [readEntries?] at read
      cases read
  | succ fuel ih => exact ⟨ih.value_step, ih.items_step, ih.entries_step⟩

theorem nesting_of_read? {s : String} {j : Json} (read : read? s = some j) :
    j.nesting ≤ depthLimit := by
  unfold read? at read
  simp only at read
  split at read
  next => cases read
  next first =>
    split at read
    next =>
      cases read
      exact (staysWithin _).value first
    next => cases read

/-! ### Parts -/

theorem nesting_of_mem {key : String} {item : Json} {entries : List (String × Json)}
    (member : (key, item) ∈ entries) : item.nesting ≤ nestingEntries entries := by
  induction entries with
  | nil => cases member
  | cons e rest ih =>
    rcases List.mem_cons.mp member with rfl | member
    · exact Nat.le_max_left _ _
    · exact Nat.le_trans (ih member) (Nat.le_max_right _ _)

theorem nesting_of_part? {entries : List (String × Json)} {name : String} {item : Json}
    (found : part? entries name = some (some item)) : item.nesting ≤ nestingEntries entries := by
  unfold part? at found
  split at found
  next => cases found
  next key j only =>
    cases found
    have member : (key, item) ∈ entries.filter (fun e => e.1 == name) := by
      rw [only]
      exact List.mem_cons_self
    exact nesting_of_mem (List.mem_filter.mp member).1
  next => cases found

end Printworks.Json
