import Printworks.Json.Basic
import Printworks.Decimal.Reading
import Printworks.Text.CodeUnit

/-!
# Reading documents

`Json.read?` reads a text that holds one document and nothing else. Brackets may be nested at most
127 deep. A number without fraction and exponent that fits in 64 bits is an integer. Every other one
is a double: as many leading digits as fit in 64 bits are multiplied or divided by a power of ten,
each step rounded, and what becomes infinite is refused.
-/

namespace Printworks

namespace JsonNumber

/-- The largest natural number of 64 bits. -/
def wordMax : Nat := UInt64.size - 1

/-- The double nearest to a power of ten. -/
def powerOfTen (e : Nat) : Double := Double.ofRatio false (Nat.pow 10 e) 1

/-- Divide by `10 ^ places`, at most `10 ^ 308` at a time. -/
def shrink (fuel : Nat) (x : Double) (places : Nat) : Double :=
  match fuel with
  | 0 => x
  | fuel + 1 =>
    if places ≤ 308 then x.div (powerOfTen places)
    else if x.isZero then x
    else shrink fuel (x.div (powerOfTen 308)) (places - 308)

/-- The double of some digits and a power of ten, unless it is infinite. -/
def scaled? (negative : Bool) (digits : Nat) (exponent : Int) : Option JsonNumber :=
  let whole := Double.ofInt digits
  let size? :=
    if exponent < 0 then some (shrink ((-exponent).toNat / 308 + 1) whole (-exponent).toNat)
    else if 308 < exponent then (if whole.isZero then some whole else none)
    else
      let x := whole.mul (powerOfTen exponent.toNat)
      if x.isFinite then some x else none
  size?.map (fun x => .double (if negative then x.neg else x))

/-- Take digits as long as their number fits in 64 bits. Gives the number, how many digits were
taken, and the rest. -/
def takeDigits (cs : List Char) (value count : Nat) : Nat × Nat × List Char :=
  match cs with
  | [] => (value, count, [])
  | c :: rest =>
    match digitValue? c with
    | none => (value, count, c :: rest)
    | some d =>
      if wordMax < 10 * value + d then (value, count, c :: rest)
      else takeDigits rest (10 * value + d) (count + 1)

/-- The largest exponent that is read digit by digit. -/
def exponentMax : Nat := 2147483647

/-- Read what follows the mark of an exponent. -/
def readPower? (negative : Bool) (digits : Nat) (exponent : Int) (cs : List Char) :
    Option (JsonNumber × List Char) :=
  let (down, cs) := takeSign cs
  let power := cs.takeWhile isDigit
  let rest := cs.dropWhile isDigit
  let size := digitsValue power
  if power.isEmpty then none
  else if exponentMax < size then
    -- Zero stays zero, and so does what such an exponent makes small.
    if digits ≠ 0 ∧ ¬ down then none else some (.double (Double.zero negative), rest)
  else
    let e := exponent + signed down size
    let clamped := max Int32.minValue.toInt (min Int32.maxValue.toInt e)
    (scaled? negative digits clamped).map (·, rest)

/-- Finish a double after its digits: an exponent may follow. -/
def finish? (negative : Bool) (digits : Nat) (exponent : Int) (cs : List Char) :
    Option (JsonNumber × List Char) :=
  match cs with
  | 'e' :: rest => readPower? negative digits exponent rest
  | 'E' :: rest => readPower? negative digits exponent rest
  | rest => (scaled? negative digits exponent).map (·, rest)

/-- Read what follows the point. At least one digit has to. -/
def readFraction? (negative : Bool) (digits : Nat) (exponent : Int) (cs : List Char) :
    Option (JsonNumber × List Char) :=
  let (value, count, rest) := takeDigits cs digits 0
  if !(cs.head?.any isDigit) then none
  else finish? negative value (exponent - count) (rest.dropWhile isDigit)

/-- The integer of some digits; the negative zero and what is below the signed range are
doubles. -/
def whole (negative : Bool) (digits : Nat) : JsonNumber :=
  if !negative then .int digits
  else if digits = 0 ∨ Nat.pow 2 63 < digits then .double (Double.ofInt digits).neg
  else .int (-digits)

/-- Read what follows the whole digits. `dropped` of them did not fit. -/
def afterWhole? (negative : Bool) (digits dropped : Nat) (cs : List Char) :
    Option (JsonNumber × List Char) :=
  match cs with
  | '.' :: rest => readFraction? negative digits dropped rest
  | cs =>
    if dropped = 0 ∧ ¬ cs.head?.any (fun c => c == 'e' || c == 'E') then
      some (whole negative digits, cs)
    else finish? negative digits dropped cs

/-- Read a number at the start of a text. -/
def read? (cs : List Char) : Option (JsonNumber × List Char) :=
  let (negative, cs) := match cs with
    | '-' :: rest => (true, rest)
    | rest => (false, rest)
  match cs with
  | '0' :: rest => if rest.head?.any isDigit then none else afterWhole? negative 0 0 rest
  | cs =>
    if !(cs.head?.any isDigit) then none
    else
      let (value, _, rest) := takeDigits cs 0 0
      let dropped := rest.takeWhile isDigit
      afterWhole? negative value dropped.length (rest.dropWhile isDigit)

end JsonNumber

namespace Json

/-- The number of four hexadecimal digits. -/
def hexUnit? (a b c d : Char) : Option Nat := do
  let a ← Text.hexValue? a
  let b ← Text.hexValue? b
  let c ← Text.hexValue? c
  let d ← Text.hexValue? d
  return ((a * 16 + b) * 16 + c) * 16 + d

/-- The character that an escape with a name stands for. -/
def namedEscape? (c : Char) : Option Char :=
  match c with
  | '"' => some '"'
  | '\\' => some '\\'
  | '/' => some '/'
  | 'b' => some '\x08'
  | 'f' => some '\x0c'
  | 'n' => some '\n'
  | 'r' => some '\r'
  | 't' => some '\t'
  | _ => none

/-- Read a text up to its closing quote. `taken` holds the characters so far, the last one first.
Half a pair by itself, an unknown escape and a bare control are refused. -/
def readText? (cs : List Char) (taken : List Char) : Option (String × List Char) :=
  match cs with
  | '"' :: rest => some (String.ofList taken.reverse, rest)
  | '\\' :: 'u' :: a :: b :: c :: d :: rest =>
    match hexUnit? a b c d with
    | none => none
    | some unit =>
      if Text.isLowHalf unit then none
      else if Text.isHighHalf unit then
        match rest with
        | '\\' :: 'u' :: a :: b :: c :: d :: rest =>
          match hexUnit? a b c d with
          | none => none
          | some low =>
            if Text.isLowHalf low then readText? rest (Text.joinHalves unit low :: taken)
            else none
        | _ => none
      else readText? rest (Char.ofNat unit :: taken)
  | '\\' :: c :: rest =>
    match namedEscape? c with
    | none => none
    | some e => readText? rest (e :: taken)
  | c :: rest => if c.toNat < 0x20 ∨ c = '\\' then none else readText? rest (c :: taken)
  | [] => none

/-- Whether a character may stand between the parts of a document. -/
def isGap (c : Char) : Bool := c == ' ' || c == '\t' || c == '\n' || c == '\r'

def skipGap (cs : List Char) : List Char := cs.dropWhile isGap

def dropWord? (word : String) (cs : List Char) : Option (List Char) :=
  if word.toList.isPrefixOf cs then some (cs.drop word.length) else none

/-- Read the name of an entry and the colon after it. -/
def readName? (cs : List Char) : Option (String × List Char) :=
  match skipGap cs with
  | '"' :: rest =>
    match readText? rest [] with
    | none => none
    | some (name, rest) =>
      match skipGap rest with
      | ':' :: rest => some (name, rest)
      | _ => none
  | _ => none

mutual

/-- Read a document at the start of a text. `depth` more brackets may be open than now. -/
def readValue? (fuel depth : Nat) (cs : List Char) : Option (Json × List Char) :=
  match fuel with
  | 0 => none
  | fuel + 1 =>
    match skipGap cs with
    | '[' :: rest =>
      match depth with
      | 0 => none
      | depth + 1 =>
        match skipGap rest with
        | ']' :: rest => some (array [], rest)
        | rest => (readItems? fuel depth rest).map (fun r => (array r.1, r.2))
    | '\x7b' :: rest =>
      match depth with
      | 0 => none
      | depth + 1 =>
        match skipGap rest with
        | '\x7d' :: rest => some (object [], rest)
        | rest => (readEntries? fuel depth rest).map (fun r => (object r.1, r.2))
    | '"' :: rest => (readText? rest []).map (fun r => (text r.1, r.2))
    | 'n' :: rest => (dropWord? "ull" rest).map (null, ·)
    | 't' :: rest => (dropWord? "rue" rest).map (bool true, ·)
    | 'f' :: rest => (dropWord? "alse" rest).map (bool false, ·)
    | rest => (JsonNumber.read? rest).map (fun r => (number r.1, r.2))

def readItems? (fuel depth : Nat) (cs : List Char) : Option (List Json × List Char) :=
  match fuel with
  | 0 => none
  | fuel + 1 =>
    match readValue? fuel depth cs with
    | none => none
    | some (item, rest) =>
      match skipGap rest with
      | ']' :: rest => some ([item], rest)
      | ',' :: rest => (readItems? fuel depth rest).map (fun r => (item :: r.1, r.2))
      | _ => none

/-- Read the entries of an object, at least one, and the closing brace. -/
def readEntries? (fuel depth : Nat) (cs : List Char) : Option (List (String × Json) × List Char) :=
  match fuel with
  | 0 => none
  | fuel + 1 =>
    match readName? cs with
    | none => none
    | some (name, rest) =>
      match readValue? fuel depth rest with
      | none => none
      | some (item, rest) =>
        match skipGap rest with
        | '\x7d' :: rest => some ([(name, item)], rest)
        | ',' :: rest =>
          (readEntries? fuel depth rest).map (fun r => ((name, item) :: r.1, r.2))
        | _ => none

end

/-- How many brackets may be open at once. -/
def depthLimit : Nat := 127

/-- Read a text that holds one document, with entries as they are written. Every step of the
reader but the first follows an opening bracket or a comma, so the length of the text bounds how
deep they nest. -/
def read? (s : String) : Option Json :=
  let cs := s.toList
  match readValue? (2 * cs.length + 2) depthLimit cs with
  | none => none
  | some (j, rest) => if (skipGap rest).isEmpty then some j else none

/-- Read a text that holds one document, objects being maps. -/
def readCanonical? (s : String) : Option Json := (read? s).map canonical

end Json

end Printworks
