import Printworks.Contract.Basic
import Printworks.Contract.Coercion

/-!
# Binding values to a contract

Binding never stops at the first problem: the result lists every violation, so that a caller can
report all of them at once. `Contract.bind` reads a request, `Contract.bindValues` takes values that
have their types already; both end in `Contract.resolve`, which knows only which slots have been
supplied and with what.
-/

namespace Printworks

inductive ExtraParameters where
  /-- Each of them is a violation. -/
  | reject
  /-- They are left out, with a warning. -/
  | warn
  deriving DecidableEq, Inhabited

structure Binding where
  /-- The values of the slots, defaults included. -/
  values : Dict Value
  violations : List Violation
  warnings : List String
  deriving Inhabited

namespace Binding

def isValid (b : Binding) : Bool := b.violations.isEmpty

/-- The values if they fit, and all violations otherwise. -/
def toExcept (b : Binding) : Except (List Violation) (Dict Value) :=
  if b.isValid then .ok b.values else .error b.violations

end Binding

/-- What has been supplied for slots, by name. What is malformed is there, but has no value. -/
abbrev Supplied := Dict (Option Value)

namespace Contract

/-- The bound values: those supplied, and defaults where nothing is. -/
def boundValues (c : Contract) (supplied : Supplied) : Dict Value :=
  c.slots.foldl (fun values slot =>
    match slot.kind with
    | .hasDefault default =>
      if supplied.contains slot.name then values else values.insert slot.name default
    | _ => values)
    (Dict.ofList (supplied.toList.filterMap (fun e => e.2.map (e.1, ·))))

def missingRequired (c : Contract) (supplied : Supplied) : List Violation :=
  (c.slots.filter (fun s => s.isRequired && !supplied.contains s.name)).map
    (fun s => .missingRequired s.name)

/-- Whether a name that another slot requires is left open: nothing is supplied for it, it has no
default, and it is not reported as missing by itself. -/
def leavesOpen (c : Contract) (supplied : Supplied) (name : String) : Bool :=
  !supplied.contains name &&
    match c.get? name with
    | none => true
    | some slot => !slot.isRequired && slot.default?.isNone

/-- The names left open that a supplied slot requires. -/
def missingRequiredBy (c : Contract) (supplied : Supplied) : List Violation :=
  (c.slots.filter (fun s => supplied.contains s.name)).flatMap (fun trigger =>
    (trigger.requires.filter (c.leavesOpen supplied)).map
      (fun name => .missingRequiredBy name trigger.name))

/-- What is wrong with the supplied members of a group. -/
def groupViolation? (supplied : Supplied) (group : String) (members : List String) :
    Option Violation :=
  match members.filter supplied.contains with
  | [] => some (.noneOfGroup group members)
  | [_] => none
  | present => some (.manyOfGroup group present)

def groupViolations (c : Contract) (supplied : Supplied) : List Violation :=
  c.groups.toList.filterMap (fun g => groupViolation? supplied g.1 g.2)

/-- Apply the rules of presence and the defaults to what is supplied. -/
def resolve (c : Contract) (supplied : Supplied) : Dict Value × List Violation :=
  (c.boundValues supplied,
    c.missingRequired supplied ++ c.missingRequiredBy supplied ++ c.groupViolations supplied)

/-- What a request has for a slot: nothing, or null, is absent. -/
def requested? (raw : Dict Json) (slot : Slot) : Option (Except Violation Value) :=
  match raw.get? slot.name with
  | none => none
  | some .null => none
  | some j => some (Value.coerce slot.name j slot.type)

def suppliedBy (c : Contract) (raw : Dict Json) : Supplied :=
  c.slots.foldl (fun supplied slot =>
    match requested? raw slot with
    | none => supplied
    | some (.ok v) => supplied.insert slot.name (some v)
    | some (.error _) => supplied.insert slot.name none) ∅

def mismatches (c : Contract) (raw : Dict Json) : List Violation :=
  c.slots.filterMap (fun slot =>
    match requested? raw slot with
    | some (.error violation) => some violation
    | _ => none)

def undeclared (c : Contract) (raw : Dict Json) : List String :=
  raw.keys.filter (fun key => !c.contains key)

def ignoredWarning (name : String) : String := s!"unexpected parameter '{name}' was ignored"

def bind (c : Contract) (raw : Dict Json) (policy : ExtraParameters) : Binding :=
  let extra := c.undeclared raw
  let (values, violations) := c.resolve (c.suppliedBy raw)
  match policy with
  | .reject =>
    ⟨values, c.mismatches raw ++ extra.map .unexpected ++ violations, []⟩
  | .warn => ⟨values, c.mismatches raw ++ violations, extra.map ignoredWarning⟩

/-- What is wrong with one typed value: its type, or that its name is not declared. -/
def typedViolation? (c : Contract) (name : String) (value : Value) : Option Violation :=
  match c.get? name with
  | none => some (.unexpected name)
  | some slot =>
    match Value.check name value slot.type with
    | .ok () => none
    | .error violation => some violation

/-- Bind values that have their types already. A null is absent. -/
def bindValues (c : Contract) (values : Dict Value) : Binding :=
  -- Only declared values count as supplied; the others are violations of their own.
  let present := values.filter (fun _ v => !v.isNull)
  let declared := present.filter (fun name _ => c.contains name)
  let (bound, violations) := c.resolve (declared.map some)
  ⟨bound, present.toList.filterMap (fun e => c.typedViolation? e.1 e.2) ++ violations, []⟩

end Contract

end Printworks
