import Printworks.Registry.Basic
import Printworks.Json.Printer
import Printworks.Json.Reader
import Printworks.Json.Schema

/-!
# The registry in a table

Each row holds a key and the text of a record. Records are compared by their texts. A row may have
been written by someone else and hold anything; what is no record is found to be corrupt when it is
read.
-/

namespace Printworks.Registry

/-- The text of a record. -/
def recordText (r : Record) : String := (Json.ofDict r).compact

def readRecord? (text : String) : Option Record := (Json.read? text).bind Json.dict?

structure Table where
  rows : Dict String
  deriving DecidableEq, Inhabited

namespace Table

def empty : Table := ⟨∅⟩

/-- The document of a table: the text of each row by key. -/
def encode (t : Table) : Json := .ofNames t.rows

def decode? (j : Json) : Option Table := (Json.map? Json.text? j).map (⟨·⟩)

/-- Store the text of a row. -/
def writeText (key text : String) (t : Table) : Table := ⟨t.rows.insert key text⟩

def write (key : String) (record : Record) (t : Table) : Table :=
  t.writeText key (recordText record)

/-- The table of some records. -/
def ofRecords (records : List (String × Record)) : Table :=
  records.foldl (fun t e => t.write e.1 e.2) empty

def read (key : String) (t : Table) : Except StoreError (Option Record) :=
  match t.rows.get? key with
  | none => .ok none
  | some text =>
    match readRecord? text with
    | some record => .ok (some record)
    | none => .error (.corrupt key "not a record")

/-- Whether the row of a key has the text of an expected record. -/
def holds (key : String) (expected : Record) (t : Table) : Bool :=
  t.rows.get? key == some (recordText expected)

instance : Registry Table where
  get key t := (t.read key, t)
  contains key t := (.ok (t.rows.contains key), t)
  put key record t := record.ifFlat t (.ok (), t.write key record)
  putIfAbsent key record t :=
    record.ifFlat t
      (if t.rows.contains key then (.ok false, t) else (.ok true, t.write key record))
  compareAndPut key expected record t :=
    record.ifFlat t
      (if t.holds key expected then (.ok true, t.write key record) else (.ok false, t))

end Table

end Printworks.Registry
