import Printworks.Decimal.Writing
import Printworks.Text.Quoted

/-!
# What the expressions of a template stand for

A datum has a text, under which it is printed, and holds or does not hold as a condition. Whole
numbers are computed exactly between the bounds of 128 bits; a number that is written and needs more
than 64 bits is wide, and two wide ones are computed modulo `2 ^ 128`.
-/

namespace Printworks.FileName

inductive Helper where
  /-- Counts up. -/
  | range
  /-- Gathers what it is given by name. -/
  | gather
  /-- Shows what a template sees. -/
  | inspect
  /-- Gathers what may change later. -/
  | collect
  deriving DecidableEq, Inhabited

def Helper.name (h : Helper) : String :=
  match h with
  | range => "range"
  | gather => "dict"
  | inspect => "debug"
  | collect => "namespace"

def Helper.all : List Helper := [.range, .gather, .inspect, .collect]

def Helper.ofName? (name : String) : Option Helper := all.find? (fun h => h.name == name)

inductive Datum where
  | undefined
  | nothing
  | truth (b : Bool)
  | number (n : Int)
  /-- A number that is written and does not fit in 64 bits. -/
  | wide (n : Nat)
  | fraction (x : Double)
  | text (s : String)
  | list (items : List Datum)
  /-- Values under keys, in the order of the keys. -/
  | record (entries : List (Datum × Datum))
  | helper (h : Helper)
  deriving Inhabited

/-- What arguments give: data by position, and data by name in the order of the names. -/
structure Arguments where
  plain : List Datum
  named : List (String × Datum)

namespace Datum

/-- Numbers that are written lie below this one if they are not wide. -/
def writtenBound : Nat := Nat.pow 2 64

/-- The number that is written with the given value. -/
def written (n : Nat) : Datum := if n < writtenBound then number n else wide n

/-- The text of what prints the same by itself and inside a list. -/
def plainText (d : Datum) : String :=
  match d with
  | nothing => "None"
  | truth b => if b then "True" else "False"
  | number n => toString n
  | wide n => toString n
  | helper h => "minijinja::functions::builtins::" ++ h.name
  | _ => ""

mutual

/-- The text inside a list. -/
def inner : Datum → String
  | undefined => "undefined"
  | fraction x => x.shortText
  | text s => Text.quoted s
  | list items => "[" ++ ", ".intercalate (innerItems items) ++ "]"
  | record entries => "\x7b" ++ ", ".intercalate (innerEntries entries) ++ "\x7d"
  | d => d.plainText

def innerItems : List Datum → List String
  | [] => []
  | d :: rest => inner d :: innerItems rest

def innerEntries : List (Datum × Datum) → List String
  | [] => []
  | (key, d) :: rest => (inner key ++ ": " ++ inner d) :: innerEntries rest

end

/-- The text that is printed. -/
def print (d : Datum) : String :=
  match d with
  | undefined => ""
  | fraction x => x.placesText
  | text s => s
  | d => d.inner

def isTrue (d : Datum) : Bool :=
  match d with
  | undefined => false
  | nothing => false
  | truth b => b
  | number n => n != 0
  | wide n => n != 0
  | fraction x => !x.isZero
  | text s => !s.isEmpty
  | list items => !items.isEmpty
  | record entries => !entries.isEmpty
  | helper _ => true

def isUndefined (d : Datum) : Bool :=
  match d with
  | undefined => true
  | _ => false

/-- Whether a datum stands for nothing. -/
def isMissing (d : Datum) : Bool :=
  match d with
  | undefined => true
  | nothing => true
  | _ => false

def text? (d : Datum) : Option String :=
  match d with
  | text s => some s
  | _ => none

def character (c : Char) : Datum := text (String.singleton c)

/-- The parts that one finds going through a datum: the characters of a text, the items of a list or
the keys of a record. -/
def parts? (d : Datum) : Option (List Datum) :=
  match d with
  | undefined => some []
  | nothing => some []
  | text s => some (s.toList.map character)
  | list items => some items
  | record entries => some (entries.map (·.1))
  | _ => none

def size? (d : Datum) : Option Nat :=
  match d with
  | text s => some s.length
  | list items => some items.length
  | record entries => some entries.length
  | _ => none

end Datum

end Printworks.FileName
