import Printworks.Registry.Basic

/-!
# The registry in memory

Records are compared as documents: an integer and a double are different numbers, and the two zeros
are one.
-/

namespace Printworks.Registry

structure Memory where
  records : Dict Record
  deriving DecidableEq, Inhabited

namespace Memory

def empty : Memory := ⟨∅⟩

def size (m : Memory) : Nat := m.records.size

def write (key : String) (record : Record) (m : Memory) : Memory :=
  ⟨m.records.insert key record⟩

/-- Whether the record of a key equals an expected one. -/
def holds (key : String) (expected : Record) (m : Memory) : Bool :=
  (m.records.get? key).any (fun current => current.agrees expected)

instance : Registry Memory where
  get key m := (.ok (m.records.get? key), m)
  contains key m := (.ok (m.records.contains key), m)
  put key record m := record.ifFlat m (.ok (), m.write key record)
  putIfAbsent key record m :=
    record.ifFlat m
      (if m.records.contains key then (.ok false, m) else (.ok true, m.write key record))
  compareAndPut key expected record m :=
    record.ifFlat m
      (if m.holds key expected then (.ok true, m.write key record) else (.ok false, m))

end Memory

end Printworks.Registry
