/-!
# Sets of characters

Sets of characters given as lists of inclusive code point ranges.
-/

namespace Printworks.Text

/-- Whether a character lies in one of the given inclusive ranges. -/
def inRanges (ranges : List (Nat × Nat)) (c : Char) : Bool :=
  ranges.any (fun (first, last) => first ≤ c.toNat && c.toNat ≤ last)

end Printworks.Text
