import Printworks.Contract.Violation
import Printworks.Context

/-!
# How stages fail
-/

namespace Printworks

inductive StageError where
  | undeclaredInput (name : String)
  | undeclaredOutput (name : String)
  | missingInput (name : String)
  | missingOutput (name : String)
  | duplicateOutput (name : String)
  /-- A value is not of the type that was asked for or declared. -/
  | wrongType (name : String) (expected found : ValueType)
  | contract (violations : List Violation)
  | context (cause : ContextError)
  /-- The stage gave up because it was asked to. -/
  | cancelled
  | panicked (message : String)
  | failed (message : String)
  deriving DecidableEq, Inhabited

def StageError.message (e : StageError) : String :=
  match e with
  | undeclaredInput name => s!"input '{name}' is not declared by this stage"
  | undeclaredOutput name => s!"output '{name}' is not declared by this stage"
  | missingInput name => s!"input '{name}' was not supplied"
  | missingOutput name => s!"required output '{name}' was not produced"
  | duplicateOutput name => s!"output '{name}' was set twice"
  | wrongType name expected found =>
    s!"'{name}' expected " ++ expected.name ++ ", got " ++ found.name
  | contract violations => Violation.summary violations
  | context cause => cause.message
  | cancelled => "stage cancelled"
  | panicked message => s!"stage panicked: {message}"
  | failed message => message

end Printworks
