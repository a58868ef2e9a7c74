import Printworks.Json.Reader

/-!
# Reading what is wanted

A shape says which parts of a document are wanted. What it does not name is passed over: that has to
be well formed, but it may be nested to any depth, its numbers may be too large, and its escapes may
give half a pair.
-/

namespace Printworks.Json

/-- Which parts of a document are wanted. -/
inductive Shape where
  | whole
  | list (item : Shape)
  | record (parts : List (String × Shape))
  deriving Inhabited

namespace Shape

/-- The shape of the items of an array that has this shape, by their places. -/
def item (shape : Shape) (i : Nat) : Shape :=
  match shape with
  | whole => whole
  | list item => item
  | record parts => (parts[i]?.map (·.2)).getD whole

/-- The shape of an entry of an object that has this shape, unless it is passed over. -/
def entry? (shape : Shape) (name : String) : Option Shape :=
  match shape with
  | record parts => Entries.find? parts name
  | _ => some whole

end Shape

/-- Drop a text up to its closing quote. -/
def skipText? (cs : List Char) : Option (List Char) :=
  match cs with
  | '"' :: rest => some rest
  | '\\' :: 'u' :: a :: b :: c :: d :: rest =>
    if (hexUnit? a b c d).isSome then skipText? rest else none
  | '\\' :: c :: rest => if (namedEscape? c).isSome then skipText? rest else none
  | c :: rest => if c.toNat < 0x20 ∨ c = '\\' then none else skipText? rest
  | [] => none

def skipDigits? (cs : List Char) : Option (List Char) :=
  if cs.head?.any isDigit then some (cs.dropWhile isDigit) else none

def skipExponent? (cs : List Char) : Option (List Char) :=
  match cs with
  | c :: rest => if c = 'e' ∨ c = 'E' then skipDigits? (takeSign rest).2 else some (c :: rest)
  | [] => some []

def skipNumber? (cs : List Char) : Option (List Char) := do
  let cs := match cs with
    | '-' :: rest => rest
    | rest => rest
  let cs ← match cs with
    | '0' :: rest => if rest.head?.any isDigit then none else some rest
    | rest => skipDigits? rest
  match cs with
  | '.' :: rest => (skipDigits? rest).bind skipExponent?
  | rest => skipExponent? rest

/-- What may stand next where a document is passed over. -/
inductive Expected where
  | value
  | name
  /-- A comma or a closing bracket, or nothing if no bracket is open. -/
  | rest

/-- Drop a document. `brackets` are the closing brackets that are still to come, the nearest one
first. Each step takes at least one character. -/
def skipFrom? (fuel : Nat) (expected : Expected) (brackets cs : List Char) : Option (List Char) :=
  match fuel with
  | 0 => none
  | fuel + 1 =>
    match expected, brackets, skipGap cs with
    | .value, brackets, '[' :: cs =>
      match skipGap cs with
      | ']' :: cs => skipFrom? fuel .rest brackets cs
      | cs => skipFrom? fuel .value (']' :: brackets) cs
    | .value, brackets, '\x7b' :: cs =>
      match skipGap cs with
      | '\x7d' :: cs => skipFrom? fuel .rest brackets cs
      | cs => skipFrom? fuel .name ('\x7d' :: brackets) cs
    | .value, brackets, '"' :: cs => (skipText? cs).bind (skipFrom? fuel .rest brackets)
    | .value, brackets, 'n' :: cs => (dropWord? "ull" cs).bind (skipFrom? fuel .rest brackets)
    | .value, brackets, 't' :: cs => (dropWord? "rue" cs).bind (skipFrom? fuel .rest brackets)
    | .value, brackets, 'f' :: cs => (dropWord? "alse" cs).bind (skipFrom? fuel .rest brackets)
    | .value, brackets, cs => (skipNumber? cs).bind (skipFrom? fuel .rest brackets)
    | .name, brackets, '"' :: cs =>
      match (skipText? cs).map skipGap with
      | some (':' :: cs) => skipFrom? fuel .value brackets cs
      | _ => none
    | .name, _, _ => none
    | .rest, [], _ => some cs
    | .rest, bracket :: brackets, c :: cs =>
      if c = bracket then skipFrom? fuel .rest brackets cs
      else if c = ',' then
        skipFrom? fuel (if bracket = ']' then .value else .name) (bracket :: brackets) cs
      else none
    | .rest, _ :: _, [] => none

def skipValue? (cs : List Char) : Option (List Char) :=
  skipFrom? (cs.length + 2) .value [] cs

mutual

/-- Read the wanted parts of a document. `depth` more brackets may be open than now. -/
def readShaped? (fuel depth : Nat) (shape : Shape) (cs : List Char) : Option (Json × List Char) :=
  match fuel, shape with
  | 0, _ => none
  | _, .whole => readValue? (2 * cs.length + 2) depth cs
  | fuel + 1, shape =>
    match depth, skipGap cs with
    | depth + 1, '[' :: rest =>
      match skipGap rest with
      | ']' :: rest => some (array [], rest)
      | rest => (readShapedItems? fuel depth shape 0 rest).map (fun r => (array r.1, r.2))
    | depth + 1, '\x7b' :: rest =>
      match skipGap rest with
      | '\x7d' :: rest => some (object [], rest)
      | rest => (readShapedEntries? fuel depth shape rest).map (fun r => (object r.1, r.2))
    | depth, cs => readValue? (2 * cs.length + 2) depth cs

/-- Read the items of an array from the `i`-th one on, at least one, and the closing bracket. -/
def readShapedItems? (fuel depth : Nat) (shape : Shape) (i : Nat) (cs : List Char) :
    Option (List Json × List Char) :=
  match fuel with
  | 0 => none
  | fuel + 1 =>
    match readShaped? fuel depth (shape.item i) cs with
    | none => none
    | some (item, rest) =>
      match skipGap rest with
      | ']' :: rest => some ([item], rest)
      | ',' :: rest =>
        (readShapedItems? fuel depth shape (i + 1) rest).map (fun r => (item :: r.1, r.2))
      | _ => none

/-- Read the entries of an object, at least one, and the closing brace. -/
def readShapedEntries? (fuel depth : Nat) (shape : Shape) (cs : List Char) :
    Option (List (String × Json) × List Char) :=
  match fuel with
  | 0 => none
  | fuel + 1 =>
    match readName? cs with
    | none => none
    | some (name, rest) =>
      let entry? : Option (List (String × Json) × List Char) := match shape.entry? name with
        | none => (skipValue? rest).map (fun rest => ([], rest))
        | some part => (readShaped? fuel depth part rest).map (fun r => ([(name, r.1)], r.2))
      match entry? with
      | none => none
      | some (entry, rest) =>
        match skipGap rest with
        | '\x7d' :: rest => some (entry, rest)
        | ',' :: rest =>
          (readShapedEntries? fuel depth shape rest).map (fun r => (entry ++ r.1, r.2))
        | _ => none

end

def readOnly? (shape : Shape) (s : String) : Option Json :=
  let cs := s.toList
  match readShaped? (2 * cs.length + 2) depthLimit shape cs with
  | none => none
  | some (j, rest) => if (skipGap rest).isEmpty then some j else none

example : readOnly? (.record [("a", .whole)]) "\x7b\"a\": 1, \"b\": [1e999, \"\\ud800\"]\x7d" =
    some (.object [("a", .int 1)]) := by decide +kernel

end Printworks.Json
