import Printworks.FileName.Computation
import Printworks.Text.Blank
import Printworks.Text.Case

/-!
# Filters and functions of templates

A filter makes a datum from the one before it and from its arguments. What is given by name reaches
a filter or a function as one record after the other arguments, unless it asks for a name. A name
that is not known, and arguments that do not fit, give nothing.
-/

namespace Printworks.FileName

/-- A text with every occurrence of a pattern replaced, from left to right. The empty pattern occurs
between any two characters and at both ends. -/
def replaceAll (fuel : Nat) (pattern replacement cs : List Char) : List Char :=
  match fuel, cs with
  | 0, cs => cs
  | _, [] => if pattern.isEmpty then replacement else []
  | fuel + 1, c :: rest =>
    if pattern.isEmpty then replacement ++ c :: replaceAll fuel pattern replacement rest
    else if pattern.isPrefixOf (c :: rest) then
      replacement ++ replaceAll fuel pattern replacement ((c :: rest).drop pattern.length)
    else c :: replaceAll fuel pattern replacement rest

def replaced (s pattern replacement : String) : String :=
  String.ofList (replaceAll (s.length + 1) pattern.toList replacement.toList s.toList)

inductive Given where
  | datum (d : Datum)
  | names (named : List (String × Datum))

namespace Given

def toDatum (g : Given) : Datum :=
  match g with
  | datum d => d
  | names named => .ofNamed named

def text? (g : Given) : Option String :=
  match g with
  | datum d => some d.print
  | names _ => none

def index? (g : Given) : Option Int := g.toDatum.index?

/-- An argument that may be missing, read in some way. -/
def optional? {α : Type} (read? : Given → Option α) (given : Option Given) : Option (Option α) :=
  match given with
  | none => some none
  | some g => if g.toDatum.isMissing then some none else (read? g).map some

end Given

def Arguments.given (a : Arguments) : List Given :=
  a.plain.map .datum ++ (if a.named.isEmpty then [] else [.names a.named])

/-- A datum or, in its place, another one: where it is undefined, or where it does not hold and
`strict` says that this counts. -/
def orElse (d other : Datum) (strict : Bool) : Datum :=
  if d.isUndefined || (strict && !d.isTrue) then other else d

/-- Whether a character parts words: a blank or one of the ASCII signs. -/
def partsWords (c : Char) : Bool :=
  Text.isBlank c || (0x21 ≤ c.toNat && c.toNat < 0x7f && !c.isAlphanum)

/-- The characters of words with capitals at their starts. `fresh` says whether a word starts. -/
def titled (fresh : Bool) (cs : List Char) : List Char :=
  match cs with
  | [] => []
  | c :: rest =>
    if partsWords c then c :: titled true rest
    else (if fresh then Text.upperChar c else Text.lowerChar [] [] c) ++ titled false rest

def capitalized (s : String) : String :=
  match s.toList with
  | [] => ""
  | c :: rest => String.ofList (Text.upperChar c) ++ Text.lower (String.ofList rest)

def trimmedOf (unwanted : Char → Bool) (s : String) : String :=
  String.ofList (((s.toList.dropWhile unwanted).reverse.dropWhile unwanted).reverse)

/-- The signs that mean something in marked-up text, as they are written there. -/
def escapedSign (c : Char) : List Char :=
  match c with
  | '<' => "&lt;".toList
  | '>' => "&gt;".toList
  | '&' => "&amp;".toList
  | '"' => "&quot;".toList
  | '\'' => "&#x27;".toList
  | '/' => "&#x2f;".toList
  | c => [c]

/-- Split a text at every occurrence of a separator, at most into `fuel + 1` parts. `part` holds
what the current part has so far, the last character first. -/
def splitFrom (fuel : Nat) (separator : List Char) (part : List Char) (cs : List Char) :
    List (List Char) :=
  match fuel with
  | 0 => [part.reverse ++ cs]
  | fuel + 1 =>
    match cs with
    | [] => [part.reverse]
    | c :: rest =>
      if separator.isPrefixOf (c :: rest) then
        part.reverse :: splitFrom fuel separator [] ((c :: rest).drop separator.length)
      else splitFrom (fuel + 1) separator (c :: part) rest
termination_by (fuel, cs.length)

/-- The characters of a text as parts, between two empty ones. -/
def splitApart (cs : List Char) : List (List Char) :=
  [] :: cs.map (fun c => [c]) ++ [[]]

/-- The parts of a text between the occurrences of a separator. -/
def splitAt (separator cs : List Char) (most : Option Nat) : List (List Char) :=
  if separator.isEmpty then splitApart cs
  else splitFrom (most.getD (cs.length + 1)) separator [] cs

def words (cs : List Char) : List (List Char) :=
  (cs.splitBy (fun a b => Text.isBlank a == Text.isBlank b)).filter
    (fun part => !part.any Text.isBlank)

def textLines (cs : List Char) : List (List Char) :=
  let lines := splitFrom (cs.length + 1) ['\n'] [] cs
  let lines := if lines.getLast? == some [] then lines.dropLast else lines
  lines.map (fun line => if line.getLast? == some '\r' then line.dropLast else line)

def textList (parts : List (List Char)) : Datum :=
  .list (parts.map (fun part => .text (String.ofList part)))

def joined (separator : String) (items : List Datum) : String :=
  items.foldl (fun s d => (if s.isEmpty then s else s ++ separator) ++ d.print) ""

/-- The characters or items of a datum. -/
def elements? (d : Datum) : Option (List Datum) :=
  match d with
  | .text s => some (s.toList.map Datum.character)
  | .list items => some items
  | _ => none

def toWhole? (d : Datum) : Option Datum :=
  match d with
  | .undefined => some (.number 0)
  | .nothing => some (.number 0)
  | .truth b => some (.number (if b then 1 else 0))
  | .number n => some (.number n)
  | .wide n => some (.wide n)
  | .fraction x => if x.isFinite then some (.number x.wholePart) else none
  | .text s =>
    match readInt? s.toList with
    | some n => some (.number n)
    | none => (Double.read? s.toList).bind (fun x =>
        if x.isFinite then some (.number x.wholePart) else none)
  | _ => none

def toFraction? (d : Datum) : Option Datum :=
  match d with
  | .undefined => some (.fraction (.ofInt 0))
  | .nothing => some (.fraction (.ofInt 0))
  | .text s => (Double.read? s.toList).map .fraction
  | d => d.double?.map .fraction

def absolute? (d : Datum) : Option Datum :=
  match d with
  | .number n => Datum.bounded? n.natAbs
  | .wide n => some (.wide n)
  | .fraction x => some (.fraction (if x.isNegative then x.neg else x))
  | _ => none

/-- A number rounded to so many places after the point. -/
def roundedTo? (d : Datum) (places : Int) : Option Datum :=
  match d with
  | .number n => some (.number n)
  | .wide n => some (.wide n)
  | .fraction x =>
    let scale := Double.raised (.ofInt 10) (.ofInt places)
    some (.fraction ((scale.product x).rounded.quotient scale))
  | _ => none

/-- Texts that differ only in their letters' case count as equal here. -/
def caseless (d : Datum) : Datum :=
  match d with
  | .text s => .text (Text.lower s)
  | d => d

/-- The value of an option that is given by name, if it is, as a condition. -/
def option (named : List (String × Datum)) (name : String) (standard : Bool) : Bool :=
  (Entries.find? named name).elim standard Datum.isTrue

/-- What is compared of a datum when data are sorted. -/
def sortKey (named : List (String × Datum)) (d : Datum) : Datum :=
  let d := match Entries.find? named "attribute" with
    | some (.text name) => d.field name
    | _ => d
  if option named "case_sensitive" false then d else caseless d

/-- Some data in order, those that are equal in the order in which they stand. -/
def sorted (named : List (String × Datum)) (items : List Datum) : List Datum :=
  let items := items.mergeSort (fun a b => (sortKey named a).order (sortKey named b) != .gt)
  if option named "reverse" false then items.reverse else items

/-- Some data without those that are equal to an earlier one. -/
def distinct (named : List (String × Datum)) (items : List Datum) : List Datum :=
  (items.foldl (fun (kept : List Datum) d =>
    if kept.any (fun k => (sortKey named k).order (sortKey named d) == .eq) then kept
    else d :: kept) []).reverse

/-- The first of some data that no other one comes before. -/
def least (before : Datum → Datum → Bool) (items : List Datum) : Datum :=
  match items with
  | [] => .undefined
  | d :: rest => rest.foldl (fun best d => if before d best then d else best) d

/-- The entries of a record as pairs. -/
def pairs (entries : List (Datum × Datum)) : List Datum :=
  entries.map (fun entry => .list [entry.1, entry.2])

/-- Lists of `count` items each, the last one filled up if there is something to fill it with. -/
def batches (fuel count : Nat) (fill : Option Datum) (items : List Datum) : List Datum :=
  match fuel, items with
  | fuel + 1, _ :: _ =>
    let part := items.take count
    let part := match fill with
      | none => part
      | some d => part ++ List.replicate (count - part.length) d
    .list part :: batches fuel count fill (items.drop count)
  | _, _ => []

/-- The long name of a filter that has two. -/
def filterName (name : String) : String :=
  match name with
  | "d" => "default"
  | "count" => "length"
  | "e" => "escape"
  | name => name

def applyToText? (name : String) (s : String) (given : List Given) : Option Datum :=
  match name, given with
  | "upper", [] => some (.text (Text.upper s))
  | "lower", [] => some (.text (Text.lower s))
  | "title", [] => some (.text (String.ofList (titled true s.toList)))
  | "capitalize", [] => some (.text (capitalized s))
  | "string", [] => some (.text s)
  | "safe", [] => some (.text s)
  | "escape", [] => some (.text (String.ofList (s.toList.flatMap escapedSign)))
  | "lines", [] => some (textList (textLines s.toList))
  | "trim", [] => some (.text (trimmedOf Text.isBlank s))
  | "trim", [unwanted] => do
    let unwanted ← unwanted.text?
    return .text (trimmedOf unwanted.toList.contains s)
  | "replace", [pattern, replacement] => do
    return .text (replaced s (← pattern.text?) (← replacement.text?))
  | "split", [] => some (textList (words s.toList))
  | "split", [separator] => do
    match ← Given.optional? Given.text? (some separator) with
    | none => return textList (words s.toList)
    | some t => return textList (splitAt t.toList s.toList none)
  | "split", [separator, most] => do
    let t ← separator.text?
    let n ← most.index?
    return textList (splitAt t.toList s.toList (if n < 0 then none else some n.toNat))
  | _, _ => none

def applyToList? (name : String) (items : List Datum) (a : Arguments) : Option Datum :=
  match name, a.plain with
  | "list", [] => some (.list items)
  | "min", [] => some (least (fun d best => d.order best == .lt) items)
  | "max", [] => some (least (fun d best => d.order best != .lt) items)
  | "sort", [] => some (.list (sorted a.named items))
  | "unique", [] => some (.list (distinct a.named items))
  | "sum", [] => items.foldlM Datum.add? (.number 0)
  | "join", [] => some (.text (joined "" items))
  | "join", [separator] => some (.text (joined separator.print items))
  | "batch", [count] => do
    let n ← count.times?
    if n = 0 then none else return .list (batches items.length n none items)
  | "batch", [count, fill] => do
    let n ← count.times?
    if n = 0 then none else return .list (batches items.length n (some fill) items)
  | _, _ => none

def applyToDatum? (name : String) (d : Datum) (given : List Given) : Option Datum :=
  match name, given with
  | "default", [] => some (orElse d (.text "") false)
  | "default", [other] => some (orElse d other.toDatum false)
  | "default", [other, strict] => some (orElse d other.toDatum strict.toDatum.isTrue)
  | "length", [] => d.size?.map (fun n => .number n)
  | "bool", [] => some (.truth d.isTrue)
  | "int", [] => toWhole? d
  | "float", [] => toFraction? d
  | "abs", [] => absolute? d
  | "round", [] => roundedTo? d 0
  | "round", [places] => do roundedTo? d (← places.index?)
  | "first", [] => (elements? d).map (fun items => items.head?.getD .undefined)
  | "last", [] => (elements? d).map (fun items => items.getLast?.getD .undefined)
  | "reverse", [] =>
    match d with
    | .text s => some (.text (String.ofList s.toList.reverse))
    | d => d.parts?.map (fun items => .list items.reverse)
  | "attr", [name] => some (d.item name.toDatum)
  | "items", [] =>
    match d with
    | .record entries => some (.list (pairs entries))
    | _ => none
  | "dictsort", [] =>
    match d with
    | .record entries => some (.list (pairs entries))
    | _ => none
  | _, _ => none

def textFilters : List String :=
  ["upper", "lower", "title", "capitalize", "string", "safe", "escape", "lines", "trim", "replace",
    "split"]

def listFilters : List String := ["list", "min", "max", "sort", "unique", "sum", "join", "batch"]

def applyFilter? (name : String) (d : Datum) (a : Arguments) : Option Datum :=
  let name := filterName name
  if textFilters.contains name then applyToText? name d.print a.given
  else if listFilters.contains name then d.parts?.bind (fun items => applyToList? name items a)
  else applyToDatum? name d a.given

/-- A range has at most so many numbers. -/
def rangeMax : Nat := 100000

/-- The numbers from `low` to `high`, every `step`-th of them. -/
def rangeOf? (low high step : Int) : Option Datum :=
  if step = 0 then none
  else
    let distance := if 0 < step then high - low else low - high
    let count := (distance + step.natAbs - 1) / step.natAbs
    if rangeMax < count then none
    else some (.list ((List.range count.toNat).map (fun (i : Nat) => .number (low + i * step))))

def range? (given : List Given) : Option Datum := do
  let low :: rest := given | none
  let low ← low.index?
  let high ← Given.optional? Given.index? rest[0]?
  let step ← Given.optional? Given.index? rest[1]?
  if 2 < rest.length then none
  else
    match high with
    | none => rangeOf? 0 low (step.getD 1)
    | some high => rangeOf? low high (step.getD 1)

/-- The entries of a record with others put in. -/
def gathered? (a : Arguments) : Option Datum :=
  let named := a.named.map (fun entry => (Datum.text entry.1, entry.2))
  match a.plain with
  | [] => some (.ofEntries named)
  | [.undefined] => some (.ofEntries named)
  | [.record entries] => some (.ofEntries (entries ++ named))
  | _ => none

def Helper.call? (h : Helper) (a : Arguments) : Option Datum :=
  match h with
  | range => range? a.given
  | gather => gathered? a
  | collect => gathered? a
  | inspect => none

end Printworks.FileName
