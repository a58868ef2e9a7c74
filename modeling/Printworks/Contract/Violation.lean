import Printworks.ValueType

/-!
# Violations

The ways in which values fail to fit a contract.
-/

namespace Printworks

inductive Violation where
  /-- A required slot has no value. -/
  | missingRequired (slot : String)
  | missingRequiredBy (slot trigger : String)
  | noneOfGroup (group : String) (members : List String)
  | manyOfGroup (group : String) (present : List String)
  | typeMismatch (slot : String) (expected : ValueType) (found : String)
  | unexpected (slot : String)
  deriving DecidableEq, Inhabited

namespace Violation

def subject (v : Violation) : String :=
  match v with
  | missingRequired slot => slot
  | missingRequiredBy slot _ => slot
  | noneOfGroup group _ => group
  | manyOfGroup group _ => group
  | typeMismatch slot _ _ => slot
  | unexpected slot => slot

def message (v : Violation) : String :=
  match v with
  | missingRequired slot => s!"missing required parameter '{slot}'"
  | missingRequiredBy slot trigger =>
    s!"parameter '{slot}' is required when '{trigger}' is supplied"
  | noneOfGroup group members =>
    "exactly one of [" ++ ", ".intercalate members ++ s!"] is required (group '{group}')"
  | manyOfGroup group present =>
    "only one of [" ++ ", ".intercalate present ++ s!"] may be supplied (group '{group}')"
  | typeMismatch slot expected found =>
    s!"parameter '{slot}' expected " ++ expected.name ++ s!", got {found}"
  | unexpected slot => s!"unexpected parameter '{slot}'"

def summary (violations : List Violation) : String :=
  "invalid parameters: " ++ "; ".intercalate (violations.map message)

end Violation

end Printworks
