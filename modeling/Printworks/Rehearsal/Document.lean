import Printworks.Rehearsal.Script

/-!
# Documents of scripts

A script is written as an array of objects. Each says what is done under `do`, and has further
entries as the action needs them; a guarded action has a true entry `try`. What fails on purpose
cannot be guarded, and neither can a copy.
-/

namespace Printworks.Rehearsal

def textOf (j : Json) (name : String) : String :=
  match (j.dict?.bind (fun d => d.get? name)).bind Json.text? with
  | some s => s
  | none => ""

def numberOf (j : Json) (name : String) : Nat :=
  ((j.dict?.bind (fun d => d.get? name)).bind Json.nat?).getD 0

/-- The question that a word means. -/
def inquiryOf? (word slot : String) : Option Inquiry :=
  match word with
  | "input" => some (.input slot)
  | "optional_input" => some (.optionalInput slot)
  | "input_str" => some (.inputString slot)
  | "input_i64" => some (.inputInteger slot)
  | "input_f64" => some (.inputNumber slot)
  | "input_bool" => some (.inputBool slot)
  | "who" => some .identity
  | "outputs" => some .outputs
  | _ => none

/-- The value that is set as an output. Without one it is null. -/
def valueOf? (j : Json) : Option Value :=
  match j.dict?.bind (fun d => d.get? "value") with
  | none => some .null
  | some .null => some .null
  | some content => Value.decode? content

/-- The failure of a stage that is told to do what it does not know. -/
def unknownAction (word : String) : StageError := .failed ("unknown action " ++ word)

/-- The words with which a stage breaks off. -/
def breakText (j : Json) : String :=
  if textOf j "payload" = "other" then "unknown panic" else textOf j "message"

def Action.decode? (j : Json) : Option Action :=
  let word := textOf j "do"
  match inquiryOf? word (textOf j "slot"), word with
  | some inquiry, _ => some (.ask inquiry)
  | none, "set_output" => (valueOf? j).map (.setOutput (textOf j "slot"))
  | none, "copy" => some (.copy (textOf j "slot") (textOf j "to"))
  | none, "sleep" => some (.sleep (numberOf j "ms"))
  | none, "cancel" => some .cancel
  | none, "await_cancel" => some .awaitCancel
  | none, "fail" => some (.fail (.failed (textOf j "message")))
  | none, "fail_cancelled" => some (.fail .cancelled)
  | none, "panic" => some (.fail (.panicked (breakText j)))
  | none, "fail_store" => some (.spoilWrites (numberOf j "count"))
  | none, word => some (.fail (unknownAction word))

/-- The words of the actions that cannot be guarded. -/
def unguarded : List String := ["copy", "fail", "fail_cancelled", "panic"]

/-- Whether a document guards its action. -/
def isGuarded (j : Json) : Bool :=
  (j.dict?.bind (fun d => d.get? "try")) == some (.bool true) && !unguarded.contains (textOf j "do")

def Step.decode? (j : Json) : Option Step :=
  (Action.decode? j).map (fun action => ⟨action, isGuarded j⟩)

def Script.decode? (j : Json) : Option Script :=
  match j with
  | .null => some []
  | j => Json.list? Step.decode? j

end Printworks.Rehearsal
