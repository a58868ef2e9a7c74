import Printworks.Text.CaseTable

/-!
# Small and capital letters

Each letter is replaced by its full mapping, which may be several letters. The capital sigma has two
small forms: the one that ends a word stands where a cased letter precedes and none follows.
-/

namespace Printworks.Text

/-- Move a character along the run that holds it, or leave it. -/
def shiftAlong (runs : List CaseRun) (c : Char) : Char :=
  match runs.find? (fun r =>
      r.first ≤ c.toNat && c.toNat ≤ r.last && (c.toNat - r.first) % r.step == 0) with
  | none => c
  | some run => Char.ofNat ((c.toNat : Int) + run.shift).toNat

/-- Whether a cased letter comes first once the characters that words pass over are dropped. -/
def startsCased (cs : List Char) : Bool :=
  match cs.dropWhile (inRanges caseIgnorableRanges) with
  | [] => false
  | c :: _ => inRanges casedRanges c

/-- The small form of a character that stands between `before` (nearest first) and `after`. -/
def lowerChar (before after : List Char) (c : Char) : List Char :=
  if c.toNat < 0x80 then [c.toLower]
  else if c = 'Σ' then
    if startsCased before && !startsCased after then ['ς'] else ['σ']
  else if c = 'İ' then ['i', '\u0307']
  else [shiftAlong lowerRuns c]

/-- The small forms of the characters of `rest`, which follow `before` (nearest first). -/
def lowerFrom (before : List Char) (rest : List Char) : List Char :=
  match rest with
  | [] => []
  | c :: rest => lowerChar before rest c ++ lowerFrom (c :: before) rest

/-- The capital form of a character. -/
def upperChar (c : Char) : List Char :=
  if c.toNat < 0x80 then [c.toUpper]
  else match upperExpansions.find? (fun e => e.1 == c.toNat) with
    | some (_, letters) => letters.map Char.ofNat
    | none => [shiftAlong upperRuns c]

def lower (s : String) : String := String.ofList (lowerFrom [] s.toList)

def upper (s : String) : String := String.ofList (s.toList.flatMap upperChar)

end Printworks.Text
