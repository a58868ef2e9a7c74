import Printworks.FileName.Literal
import Printworks.Text.Blank

/-!
# Tokens of file name templates

A template is text with values between double braces, tags between braces with percent signs and
comments between braces with hashes. A minus sign inside a brace takes away the blanks on the other
side of it. What stands between two tags of certain names is a text, whatever it looks like.
-/

namespace Printworks.FileName

inductive Token where
  | data (text : String)
  | valueStart
  | valueEnd
  | tagStart
  | tagEnd
  | name (s : String)
  | text (s : String)
  | number (n : Nat)
  | fraction (x : Double)
  | equal
  | unequal
  | atMost
  | atLeast
  | power
  | wholeOver
  | symbol (c : Char)
  deriving DecidableEq, Inhabited

inductive Marker where
  | value
  | tag
  | comment
  deriving DecidableEq, Inhabited

/-- Split a text at the first opening marker. -/
def splitAtMarker (cs : List Char) : List Char × Option (Marker × List Char) :=
  match cs with
  | '\x7b' :: '\x7b' :: rest => ([], some (.value, rest))
  | '\x7b' :: '%' :: rest => ([], some (.tag, rest))
  | '\x7b' :: '#' :: rest => ([], some (.comment, rest))
  | c :: rest =>
    let (lead, marker) := splitAtMarker rest
    (c :: lead, marker)
  | [] => ([], none)

/-- Whether blanks are taken away, and what follows the sign that says so. -/
def takeControl (cs : List Char) : Bool × List Char :=
  match cs with
  | '-' :: rest => (true, rest)
  | '+' :: rest => (false, rest)
  | rest => (false, rest)

/-- What follows the end of a value or a tag, if it stands here, and whether the blanks there are
taken away. -/
def closing? (first : Char) (cs : List Char) : Option (Bool × List Char) :=
  match cs with
  | '-' :: a :: '\x7d' :: rest => if a = first then some (true, rest) else none
  | '+' :: a :: '\x7d' :: rest => if a = first then some (false, rest) else none
  | a :: '\x7d' :: rest => if a = first then some (false, rest) else none
  | _ => none

/-- What follows the end of a comment, and whether the blanks there are taken away. -/
def afterComment? (last : Char) (cs : List Char) : Option (Bool × List Char) :=
  match cs with
  | '#' :: '\x7d' :: rest => some (last == '-', rest)
  | c :: rest => afterComment? c rest
  | [] => none

/-- Whether a character separates tokens. -/
def isGap (c : Char) : Bool := c == ' ' || c == '\t' || c == '\n' || c == '\r' || c == '\x0c'

/-- The signs that may stand between names, numbers and texts. -/
def symbols : List Char :=
  ['+', '-', '*', '/', '%', '.', ',', ':', '~', '|', '=', '<', '>', '(', ')', '[', ']', '\x7b',
    '\x7d']

def Numeral.token (n : Numeral) : Token :=
  match n with
  | .whole n => .number n
  | .fraction x => .fraction x

def readToken? (cs : List Char) : Option (Token × List Char) :=
  match cs with
  | '=' :: '=' :: rest => some (.equal, rest)
  | '!' :: '=' :: rest => some (.unequal, rest)
  | '<' :: '=' :: rest => some (.atMost, rest)
  | '>' :: '=' :: rest => some (.atLeast, rest)
  | '*' :: '*' :: rest => some (.power, rest)
  | '/' :: '/' :: rest => some (.wholeOver, rest)
  | c :: rest =>
    if c = '"' ∨ c = '\'' then (readQuoted? c rest).map (fun (s, rest) => (.text s, rest))
    else if startsName c then
      some (.name (String.ofList (c :: rest.takeWhile continuesName)), rest.dropWhile continuesName)
    else if isDigit c then
      (readNumeral? cs).map (fun (n, rest) => (n.token, rest))
    else if symbols.contains c then some (.symbol c, rest)
    else none
  | [] => none

/-- How many more brackets are open after a token than before it. -/
def Token.opened (t : Token) : Int :=
  match t with
  | symbol '(' => 1
  | symbol '[' => 1
  | symbol '\x7b' => 1
  | symbol ')' => -1
  | symbol ']' => -1
  | symbol '\x7d' => -1
  | _ => 0

/-- Read the tokens of a value or a tag and its end, unless the template ends before. The end does
not stand inside brackets, `depth` of which are open. -/
def readInside? (fuel : Nat) (first : Char) (depth : Int) (cs : List Char) :
    Option (List Token × Option (Bool × List Char)) :=
  match fuel with
  | 0 => none
  | fuel + 1 =>
    match cs.dropWhile isGap with
    | [] => some ([], none)
    | cs =>
      match (if depth = 0 then closing? first cs else none) with
      | some rest => some ([], some rest)
      | none =>
        match readToken? cs with
        | none => none
        | some (token, rest) =>
          (readInside? fuel first (depth + token.opened) rest).map
            (fun (tokens, after) => (token :: tokens, after))

/-- What follows the tag of a word that has nothing but blanks around it, and whether the blanks
there are taken away. -/
def wordTag? (word : String) (cs : List Char) : Option (Bool × List Char) :=
  let cs := cs.dropWhile isGap
  if word.toList.isPrefixOf cs then
    closing? '%' ((cs.drop word.length).dropWhile isGap)
  else none

/-- A text that is taken as it stands, and what follows it. -/
structure Verbatim where
  text : List Char
  /-- Whether the blanks at the end of the text are taken away. -/
  cut : Bool
  /-- Whether the blanks after the tag that ends the text are taken away. -/
  trimmed : Bool
  rest : List Char

/-- Take a text as it stands up to the tag that ends it. -/
def takeVerbatim? (cs : List Char) : Option Verbatim :=
  match cs with
  | [] => none
  | c :: rest =>
    let more := (takeVerbatim? rest).map (fun v => { v with text := c :: v.text })
    match c, rest with
    | '\x7b', '%' :: inside =>
      let (cut, inside) := takeControl inside
      match wordTag? "endraw" inside with
      | some (trimmed, after) => some ⟨[], cut, trimmed, after⟩
      | none => more
    | _, _ => more

/-- The token of a text between values and tags, unless it is empty. -/
def dataTokens (lead : List Char) : List Token :=
  if lead.isEmpty then [] else [.data (String.ofList lead)]

/-- Read the tokens of a template, `trimmed` saying whether blanks at the start are taken away. Each
round takes at least one character. -/
def readTokens? (fuel : Nat) (trimmed : Bool) (cs : List Char) : Option (List Token) :=
  match fuel with
  | 0 => none
  | fuel + 1 =>
    let (lead, marker) := splitAtMarker cs
    let lead := if trimmed then Text.trimStart lead else lead
    match marker with
    | none => some (dataTokens lead)
    | some (kind, rest) =>
      let (cut, rest) := takeControl rest
      let lead := if cut then Text.trimEnd lead else lead
      let inside (start stop : Token) (first : Char) : Option (List Token) :=
        match readInside? (rest.length + 1) first 0 rest with
        | none => none
        | some (tokens, none) => some (dataTokens lead ++ start :: tokens)
        | some (tokens, some (cut, rest)) =>
          (readTokens? fuel cut rest).map (fun more =>
            dataTokens lead ++ start :: (tokens ++ stop :: more))
      match kind with
      | .value => inside .valueStart .valueEnd '\x7d'
      | .tag =>
        match wordTag? "raw" rest with
        | none => inside .tagStart .tagEnd '%'
        | some (trimmed, rest) =>
          (takeVerbatim? rest).bind (fun v =>
            let text := if trimmed then Text.trimStart v.text else v.text
            let text := if v.cut then Text.trimEnd text else text
            (readTokens? fuel v.trimmed v.rest).map (fun more =>
              dataTokens lead ++ dataTokens text ++ more))
      | .comment =>
        match afterComment? ' ' rest with
        | none => none
        | some (cut, rest) => (readTokens? fuel cut rest).map (dataTokens lead ++ ·)

def tokens? (s : String) : Option (List Token) :=
  let cs := s.toList
  readTokens? (cs.length + 1) false cs

end Printworks.FileName
