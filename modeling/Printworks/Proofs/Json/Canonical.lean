import Printworks.Json.Basic
import Printworks.Proofs.Dict

/-!
# Canonical documents

In a canonical document the entries of every object are in order. Such a document is its own canonical
form, and canonical forms are canonical.
-/

namespace Printworks

namespace Json

/-- The map of entries that are in order and canonical has just these entries. -/
theorem canonicalEntries_of_increasing {entries : List (String × Json)}
    (increasing : Entries.Increasing entries) (same : ∀ e ∈ entries, e.2.canonical = e.2) :
    (canonicalEntries entries).toList = entries := by
  induction entries with
  | nil => rfl
  | cons e rest ih =>
    obtain ⟨key, item⟩ := e
    obtain ⟨first, increasing⟩ := List.pairwise_cons.mp increasing
    have others := ih increasing (fun e member => same e (List.mem_cons_of_mem _ member))
    have own : item.canonical = item := same (key, item) List.mem_cons_self
    rw [canonicalEntries, own, Dict.toList_insertNew_first (by rwa [others]), others]

mutual

@[simp] theorem canonical_canonical (j : Json) : j.canonical.canonical = j.canonical := by
  match j with
  | null => rfl
  | bool _ => rfl
  | number _ => rfl
  | text _ => rfl
  | array items => rw [canonical, canonical, canonicalItems_canonicalItems items]
  | object entries =>
    rw [canonical, canonical]
    congr 1
    exact canonicalEntries_of_increasing (canonicalEntries entries).increasing
      (canonical_of_mem_canonicalEntries entries)

theorem canonicalItems_canonicalItems (items : List Json) :
    canonicalItems (canonicalItems items) = canonicalItems items := by
  match items with
  | [] => rfl
  | item :: rest =>
    rw [canonicalItems, canonicalItems, canonical_canonical item,
      canonicalItems_canonicalItems rest]

theorem canonical_of_mem_canonicalEntries (entries : List (String × Json)) :
    ∀ e ∈ (canonicalEntries entries).toList, e.2.canonical = e.2 := by
  match entries with
  | [] => exact fun _ member => absurd member List.not_mem_nil
  | (key, item) :: rest =>
    intro e member
    rcases Dict.mem_insertNew member with rfl | member
    · exact canonical_canonical item
    · exact canonical_of_mem_canonicalEntries rest e member

end

theorem canonical_ne_null {j : Json} (some_ : j ≠ .null) : j.canonical ≠ .null := by
  cases j with
  | null => exact absurd rfl some_
  | _ => simp [canonical]

end Json

end Printworks
