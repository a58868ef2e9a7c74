import Printworks.Registry.Record

/-!
# What can go wrong with a job
-/

namespace Printworks

inductive JobError where
  | noSuchReference (reference : String)
  | accessDenied
  | notReady (reference : String)
  | failed (reference error : String)
  | cancelled (reference : String)
  | corruptRecord (reference message : String)
  | store (cause : StoreError)
  deriving DecidableEq, Inhabited

def JobError.message (e : JobError) : String :=
  match e with
  | noSuchReference reference => s!"no job with reference '{reference}'"
  | accessDenied => "access denied"
  | notReady reference => s!"job '{reference}' has not finished"
  | failed reference error => s!"job '{reference}' failed: {error}"
  | cancelled reference => s!"job '{reference}' was cancelled"
  | corruptRecord reference message => s!"status record for '{reference}' is invalid: {message}"
  | store cause => cause.message

end Printworks
