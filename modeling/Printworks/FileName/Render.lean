import Printworks.FileName.Evaluation
import Printworks.Time.Instant

/-!
# File names

A template gives the name under which a finished print is downloaded. The template sees the
application, the reference of the job and the day of its submission. What is not defined prints
nothing, but has no attributes and cannot be computed with.
-/

namespace Printworks.FileName

/-- The text of a datum after some filters. -/
def applyAll? (scope : Scope) (d : Datum) (filters : List Filtering) : Option Datum :=
  filters.foldlM (fun d f => do
    applyFilter? f.name d (← evalArguments? scope f.arguments).normal) d

/-- What a loop says of itself at one of its items. -/
def loopDatum (items : List Datum) (i : Nat) : Datum :=
  let size := items.length
  .ofNamed [("index0", .number i), ("index", .number (i + 1)), ("length", .number size),
    ("revindex", .number (size - i : Nat)), ("revindex0", .number (size - i - 1 : Nat)),
    ("first", .truth (i == 0)), ("last", .truth (i + 1 == size)), ("depth", .number 1),
    ("depth0", .number 0),
    ("previtem", if i = 0 then .undefined else items.getD (i - 1) .undefined),
    ("nextitem", items.getD (i + 1) .undefined)]

/-- Whether an item counts for which a target is assigned. -/
def counts? (scope : Scope) (target : Target) (condition : Expr) (d : Datum) : Option Bool := do
  let scope ← target.bind? d scope.push
  return (← condition.eval? scope).isTrue

def counted? (scope : Scope) (target : Target) (condition : Expr) (items : List Datum) :
    Option (List Datum) :=
  items.filterM (counts? scope target condition)

/-- Assign the values of expressions, each of which sees the targets before it. -/
def bindValues? (scope : Scope) (bindings : List (Target × Expr)) : Option Scope :=
  bindings.foldlM (fun scope b => do b.1.bind? (← b.2.eval? scope) scope) scope

mutual

/-- The text of a part of a template, and what its names stand for after it. -/
def Node.render? (scope : Scope) : Node → Option (String × Scope)
  | .data s => some (s, scope)
  | .value e => do return ((← e.eval? scope).print, scope)
  | .branch condition yes no => do
    let d ← condition.eval? scope
    if d.isTrue then renderAll? scope yes else renderAll? scope no
  | .loop target items condition body otherwise => do
    let items ← counted? scope target condition (← (← items.eval? scope).parts?)
    if items.isEmpty then renderAll? scope otherwise
    else
      let (text, inner) ← items.zipIdx.foldlM (fun (text, scope) (d, i) => do
        let scope ← target.bind? d (scope.assign "loop" (loopDatum items i))
        let (more, scope) ← renderAll? scope body
        return (text ++ more, scope)) ("", scope.push)
      return (text, inner.pop)
  | .assign target e => do return ("", ← target.bind? (← e.eval? scope) scope)
  | .capture target filters body => do
    let (text, scope) ← renderAll? scope body
    let d ← applyAll? scope (.text text) filters
    return ("", ← target.bind? d scope)
  | .local bindings body => do
    let (text, inner) ← renderAll? (← bindValues? scope.push bindings) body
    return (text, inner.pop)
  | .filtered filters body => do
    let (text, scope) ← renderAll? scope body
    return ((← applyAll? scope (.text text) filters).print, scope)
  | .group body => renderAll? scope body
  | .perform e => do
    let _ ← e.eval? scope
    return ("", scope)
  | .external optional => if optional then some ("", scope) else none

/-- The text of several parts, and what their names stand for after them. -/
def renderAll? (scope : Scope) : List Node → Option (String × Scope)
  | [] => some ("", scope)
  | node :: rest => do
    let (s, scope) ← node.render? scope
    let (t, scope) ← renderAll? scope rest
    return (s ++ t, scope)

end

inductive Error where
  /-- The template is not well formed, or asks for what cannot be computed. -/
  | template
  | empty
  /-- The name would lead to another folder. -/
  | separator (name : String)
  deriving DecidableEq, Inhabited

def Error.message (e : Error) : String :=
  match e with
  | template => "the template cannot be rendered"
  | empty => "file name is empty"
  | separator name => s!"file name '{name}' contains a path separator"

/-- The template used where a definition has none. -/
def defaultTemplate : String := "\x7b\x7b app_id \x7d\x7d-\x7b\x7b reference_id \x7d\x7d"

def isValid (template : String) : Bool := (parse? template).isSome

/-- What the names stand for in the template of a job. -/
def jobScope (appId reference : String) (submittedAt : Instant) : Scope :=
  ⟨[], Dict.ofList [("app_id", appId), ("reference_id", reference),
    ("date", Instant.dateText submittedAt.date)]⟩

/-- The file name of a job: what the template gives, without blanks at its ends. -/
def render (template appId reference : String) (submittedAt : Instant) : Except Error String :=
  let scope := jobScope appId reference submittedAt
  match (parse? template).bind (fun nodes => (renderAll? scope nodes).map (·.1)) with
  | none => .error .template
  | some text =>
    let name := Text.trimmed text
    if name.isEmpty then .error .empty
    else if name.toList.any (fun c => c == '/' || c == '\\') then .error (.separator name)
    else .ok name

end Printworks.FileName
