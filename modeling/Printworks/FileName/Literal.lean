import Printworks.Decimal.Reading
import Printworks.Json.Reader

/-!
# Literals in file name templates

Whole numbers are written in base ten, or in base two, eight or sixteen after a zero and a letter.
Underscores may group the digits. A point or an exponent makes a fraction. A text stands between
quotes of either kind, and a backslash in it starts an escape.
-/

namespace Printworks.FileName

def startsName (c : Char) : Bool :=
  ('a' ≤ c && c ≤ 'z') || ('A' ≤ c && c ≤ 'Z') || c == '_'

def continuesName (c : Char) : Bool := startsName c || isDigit c

/-- The part of a number that a character belongs to. -/
inductive NumberPart where
  | whole
  /-- The digits in a base that a letter names. -/
  | radix (base : Nat)
  | fraction
  /-- The letter before an exponent. -/
  | mark
  | exponent
  deriving DecidableEq, Inhabited

/-- Whether an exponent starts here: its letter and a digit, which may have a sign. -/
def startsExponent (cs : List Char) : Bool :=
  match cs with
  | letter :: sign :: rest =>
    (letter == 'e' || letter == 'E') &&
      (isDigit sign || ((sign == '+' || sign == '-') && rest.head?.any isDigit))
  | _ => false

/-- The part that a character belongs to when it goes on with a number, `rest` following it. A point
before a name belongs to no number, unless the name is the start of an exponent. -/
def NumberPart.next? (part : NumberPart) (c : Char) (rest : List Char) : Option NumberPart :=
  if c = '_' then some part
  else if isDigit c then some (if part = mark then exponent else part)
  else match part with
    | whole =>
      if c = '.' then
        (if rest.head?.any startsName && !startsExponent rest then none else some fraction)
      else if c = 'e' ∨ c = 'E' then some mark
      else none
    | fraction => if c = 'e' ∨ c = 'E' then some mark else none
    | mark => if c = '+' ∨ c = '-' then some exponent else none
    | radix base => if base = 16 ∧ (Text.hexValue? c).isSome then some part else none
    | exponent => none

/-- The characters of a number, the last part among them, and what follows the number. -/
def takeNumber (part : NumberPart) (cs : List Char) : List Char × NumberPart × List Char :=
  match cs with
  | [] => ([], part, [])
  | c :: rest =>
    match part.next? c rest with
    | none => ([], part, c :: rest)
    | some part =>
      let (taken, last, after) := takeNumber part rest
      (c :: taken, last, after)

inductive Numeral where
  | whole (n : Nat)
  | fraction (x : Double)
  deriving DecidableEq, Inhabited

/-- Whole numbers that are written lie below this one. -/
def numeralSize : Nat := Nat.pow 2 128

/-- The number of its characters, the last of which belong to the given part. -/
def numeral? (cs : List Char) (last : NumberPart) : Option Numeral :=
  let digits := cs.filter (fun c => c != '_')
  let below (n : Nat) : Option Numeral := if n < numeralSize then some (.whole n) else none
  if cs.getLast? = some '_' then none
  else match last with
    | .whole => (Text.readRadix? 10 digits).bind below
    | .radix base => (Text.readRadix? base digits).bind below
    | _ => (Double.read? digits).map .fraction

/-- The part that a number starts with, and its characters from there on. -/
def numberStart (cs : List Char) : NumberPart × List Char :=
  match cs with
  | '0' :: letter :: rest =>
    if letter = 'b' ∨ letter = 'B' then (.radix 2, rest)
    else if letter = 'o' ∨ letter = 'O' then (.radix 8, rest)
    else if letter = 'x' ∨ letter = 'X' then (.radix 16, rest)
    else (.whole, cs)
  | cs => (.whole, cs)

/-- Read a number that starts with a digit. -/
def readNumeral? (cs : List Char) : Option (Numeral × List Char) :=
  let (part, cs) := numberStart cs
  let (taken, last, rest) := takeNumber part cs
  (numeral? taken last).map (·, rest)

/-- What stands between quotes, its escapes as they are written, and what follows the closing
quote. -/
def takeQuoted? (quote : Char) (cs : List Char) : Option (List Char × List Char) :=
  match cs with
  | [] => none
  | '\\' :: c :: rest =>
    (takeQuoted? quote rest).map (fun (taken, after) => ('\\' :: c :: taken, after))
  | c :: rest =>
    if c = quote then some ([], rest)
    else if c = '\\' then none
    else (takeQuoted? quote rest).map (fun (taken, after) => (c :: taken, after))

inductive Piece where
  | character (c : Char)
  | unit (n : Nat)
  deriving DecidableEq, Inhabited

def isOctal (c : Char) : Bool := '0' ≤ c && c ≤ '7'

/-- Characters up to this number have escapes of two hexadecimal or three octal digits. -/
def byteMax : Nat := 255

/-- Read what follows a backslash, `c` being the first character. What is no escape stands for
itself, backslash and all. -/
def readEscape? (c : Char) (rest : List Char) : Option (List Piece × List Char) :=
  let short (digits rest : List Char) : Option (List Piece × List Char) := do
    let n ← Text.readRadix? 8 digits
    if n ≤ byteMax then some ([.character (Char.ofNat n)], rest) else none
  if c = 'u' then
    if rest.length < 4 then none
    else (Text.readPlusRadix? 16 (rest.take 4)).map (fun n => ([.unit n], rest.drop 4))
  else if c = 'x' then
    if rest.length < 2 then none
    else (Text.readPlusRadix? 16 (rest.take 2)).map
      (fun n => ([.character (Char.ofNat n)], rest.drop 2))
  else if isOctal c then
    let more := (rest.take 2).takeWhile isOctal
    short (c :: more) (rest.drop more.length)
  else if c = '\'' then some ([.character c], rest)
  else match Json.namedEscape? c with
    | some e => some ([.character e], rest)
    | none => some ([.character '\\', .character c], rest)

/-- The pieces of what stands between quotes. -/
def pieces? (fuel : Nat) (cs : List Char) : Option (List Piece) :=
  match fuel, cs with
  | _, [] => some []
  | fuel + 1, '\\' :: c :: rest => do
    let (pieces, rest) ← readEscape? c rest
    return pieces ++ (← pieces? fuel rest)
  | fuel + 1, c :: rest => do
    return .character c :: (← pieces? fuel rest)
  | 0, _ => none

/-- The characters of some pieces. Two halves of a pair make one character, and half a pair by
itself makes none. -/
def joinPieces? (pieces : List Piece) : Option (List Char) :=
  match pieces with
  | [] => some []
  | .character c :: rest => (joinPieces? rest).map (c :: ·)
  | .unit high :: .unit low :: rest =>
    if Text.isHighHalf high then
      if Text.isLowHalf low then (joinPieces? rest).map (Text.joinHalves high low :: ·) else none
    else if Text.isLowHalf high then none
    else (joinPieces? (.unit low :: rest)).map (Char.ofNat high :: ·)
  | .unit n :: rest =>
    if Text.isHighHalf n ∨ Text.isLowHalf n then none
    else (joinPieces? rest).map (Char.ofNat n :: ·)

def readQuoted? (quote : Char) (cs : List Char) : Option (String × List Char) := do
  let (taken, rest) ← takeQuoted? quote cs
  let pieces ← pieces? taken.length taken
  let text ← joinPieces? pieces
  return (String.ofList text, rest)

example : (readQuoted? '\'' "a\\x41\\u0042'c".toList).map (·.1) = some "aAB" := by decide +kernel
example : readNumeral? "0x_1F.".toList = some (.whole 31, ['.']) := by decide +kernel
example : readNumeral? "5.x".toList = some (.whole 5, ['.', 'x']) := by decide +kernel
example : (readNumeral? "5.e1x".toList).map (·.2) = some ['x'] := by decide +kernel

end Printworks.FileName
