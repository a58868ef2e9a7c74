import Printworks.Json.Basic
import Printworks.Decimal.Writing
import Printworks.Text.Quoted

/-!
# The text of a document

Documents have two texts. The compact one has no blanks. The pretty one gives every item and every
entry a line of its own, indented by two spaces for each level. Both write entries in the order in
which the document lists them, and escape only quotes, backslashes and controls.
-/

namespace Printworks

/-- The last character of an escape with a name. -/
def shortEscape? (c : Char) : Option Char :=
  match c with
  | '"' => some '"'
  | '\\' => some '\\'
  | '\n' => some 'n'
  | '\r' => some 'r'
  | '\t' => some 't'
  | '\x08' => some 'b'
  | '\x0c' => some 'f'
  | _ => none

/-- One character of a text between quotes. -/
def escapedChar (c : Char) : List Char :=
  match shortEscape? c with
  | some e => ['\\', e]
  | none =>
    if c.toNat < 0x20 then
      let digits := Text.hexDigits c.toNat
      '\\' :: 'u' :: (List.replicate (4 - digits.length) '0' ++ digits)
    else [c]

/-- A text between quotes, as documents write it. -/
def jsonQuoted (s : String) : String :=
  String.ofList ('"' :: (s.toList.flatMap escapedChar ++ ['"']))

/-- The text of a finite double: the fewest digits that read back, positional where the first
digit stands between the fifth place after the point and the sixteenth before it. -/
def Double.text (x : Double) : String :=
  let d := x.shortest .toEven
  let body := if x.isZero ∨ (-5 ≤ d.power ∧ d.power < 16) then d.positional else d.scientific true
  String.ofList (if x.isNegative then '-' :: body else body)

/-- The text of a number. -/
def JsonNumber.text (n : JsonNumber) : String :=
  match n with
  | .int i => toString i
  | .double x => x.text

namespace Json

mutual

def compact : Json → String
  | null => "null"
  | bool b => if b then "true" else "false"
  | number n => n.text
  | text s => jsonQuoted s
  | array items => "[" ++ ",".intercalate (compactItems items) ++ "]"
  | object entries => "\x7b" ++ ",".intercalate (compactEntries entries) ++ "\x7d"

def compactItems : List Json → List String
  | [] => []
  | item :: rest => compact item :: compactItems rest

def compactEntries : List (String × Json) → List String
  | [] => []
  | (key, item) :: rest => (jsonQuoted key ++ ":" ++ compact item) :: compactEntries rest

end

/-- The start of a line at a level. -/
def lineStart (level : Nat) : String := String.ofList ('\n' :: List.replicate (2 * level) ' ')

/-- Lines between an opening and a closing bracket, which stand together if there are none. -/
def bracketed (level : Nat) (opening closing : String) (lines : List String) : String :=
  if lines.isEmpty then opening ++ closing
  else
    let start := lineStart (level + 1)
    opening ++ start ++ ("," ++ start).intercalate lines ++ lineStart level ++ closing

mutual

def prettyAt (level : Nat) : Json → String
  | array items => bracketed level "[" "]" (prettyItems (level + 1) items)
  | object entries => bracketed level "\x7b" "\x7d" (prettyEntries (level + 1) entries)
  | null => "null"
  | bool b => if b then "true" else "false"
  | number n => n.text
  | text s => jsonQuoted s

def prettyItems (level : Nat) : List Json → List String
  | [] => []
  | item :: rest => prettyAt level item :: prettyItems level rest

def prettyEntries (level : Nat) : List (String × Json) → List String
  | [] => []
  | (key, item) :: rest =>
    (jsonQuoted key ++ ": " ++ prettyAt level item) :: prettyEntries level rest

end

def pretty (j : Json) : String := j.prettyAt 0

end Json

example : (Double.ofInt 25000).text = "25000.0" := by decide +kernel
example : (Double.ofRatio true 3 2000000000).text = "-1.5e-9" := by decide +kernel
example : (Double.ofInt (10 ^ 16)).text = "1e+16" := by decide +kernel
example : (Double.ofRatio false 1 100000).text = "0.00001" := by decide +kernel

end Printworks
