import Printworks.FileName.Filter

/-!
# Tests of templates

A test asks something of a datum. A name that is not known, and arguments that do not fit, give no
answer.
-/

namespace Printworks.FileName

def testName (name : String) : String :=
  match name with
  | "equalto" => "eq"
  | "lessthan" => "lt"
  | "greaterthan" => "gt"
  | "int" => "integer"
  | "escaped" => "safe"
  | name => name

/-- The relation that a test asks for. -/
def relationOf? (name : String) : Option Relation :=
  match name with
  | "eq" => some .equal
  | "ne" => some .unequal
  | "lt" => some .less
  | "le" => some .atMost
  | "gt" => some .greater
  | "ge" => some .atLeast
  | "in" => some .inside
  | _ => none

/-- The whole number of a datum, fractions with one value with it among them. -/
def Datum.parity? (d : Datum) : Option Int :=
  (d.index? <|> d.boundedWhole?).map (fun n => n % 2)

def hasCase (change : Char → List Char) (d : Datum) : Bool :=
  d.text?.any (fun s => s.toList.all (fun c => Text.inRanges Text.casedRanges c && change c == [c]))

def testAlone? (name : String) (d : Datum) : Option Bool :=
  match name with
  | "undefined" => some d.isUndefined
  | "defined" => some (!d.isUndefined)
  | "none" => some (d matches .nothing)
  | "safe" => some false
  | "odd" => some (d.parity? == some 1)
  | "even" => some (d.parity? == some 0)
  | "boolean" => some (d matches .truth _)
  | "true" => some (d matches .truth true)
  | "false" => some (d matches .truth false)
  | "number" => some (d matches .number _ | .wide _ | .fraction _)
  | "integer" => some (d matches .number _ | .wide _)
  | "float" => some (d matches .fraction _)
  | "string" => some (d matches .text _)
  | "sequence" => some (d matches .list _)
  | "mapping" => some (d matches .record _)
  | "iterable" => some d.parts?.isSome
  | "lower" => some (hasCase (Text.lowerChar [] []) d)
  | "upper" => some (hasCase Text.upperChar d)
  | _ => none

def isFilter (name : String) : Bool :=
  (textFilters ++ listFilters ++ ["default", "length", "bool", "int", "float", "abs", "round",
    "first", "last", "reverse", "attr", "items", "dictsort"]).contains (filterName name)

def testPair? (name : String) (d other : Datum) : Option Bool :=
  match relationOf? name with
  | some relation => relation.holds? d other
  | none =>
    match name with
    | "sameas" => some (d.kind == other.kind && d.same other)
    | "divisibleby" => do
      let m ← d.index?
      let n ← other.index?
      if n = 0 then none else some (m % n == 0)
    | "startingwith" => do some ((← other.text?).toList.isPrefixOf (← d.text?).toList)
    | "endingwith" => do some ((← other.text?).toList.isSuffixOf (← d.text?).toList)
    | _ => none

def applyTest? (name : String) (d : Datum) (a : Arguments) : Option Bool :=
  match testName name, a.given with
  | "filter", [] => some (isFilter d.print)
  | name, [] => testAlone? name d
  | name, [other] => testPair? name d other.toDatum
  | _, _ => none

end Printworks.FileName
