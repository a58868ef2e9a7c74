import Printworks.Dict
import Printworks.FileName.Template
import Printworks.FileName.Test

/-!
# The values of expressions

What an expression of a template stands for where its names stand for something. Operands that are
written out are joined by `and` beforehand, which leaves a truth value if the first does not hold.
-/

namespace Printworks.FileName

/-- What the names in a template stand for. -/
structure Scope where
  /-- What has been assigned, the innermost names first. -/
  frames : List (List (String × Datum))
  texts : Dict String

namespace Scope

/-- What a name stands for: what has been assigned to it, a text of the job, or one of the
functions. -/
def datum (scope : Scope) (name : String) : Datum :=
  match scope.frames.findSome? (fun frame => Entries.find? frame name) with
  | some d => d
  | none =>
    match scope.texts.get? name with
    | some s => .text s
    | none => (Helper.ofName? name).elim .undefined .helper

def assign (scope : Scope) (name : String) (d : Datum) : Scope :=
  match scope.frames with
  | [] => { scope with frames := [[(name, d)]] }
  | frame :: rest => { scope with frames := ((name, d) :: frame) :: rest }

/-- Start with names of its own. -/
def push (scope : Scope) : Scope := { scope with frames := [] :: scope.frames }

/-- Forget the innermost names. -/
def pop (scope : Scope) : Scope := { scope with frames := scope.frames.drop 1 }

/-- Put another value in the place of the one that a name stands for, wherever it has been
assigned. -/
def replace (scope : Scope) (name : String) (d : Datum) : Scope :=
  match scope.frames.findIdx? (fun frame => (Entries.find? frame name).isSome) with
  | none => scope.assign name d
  | some i => { scope with frames := scope.frames.modify i (fun frame => (name, d) :: frame) }

end Scope

/-- What is put together of the data that a list of arguments gives. -/
def Arguments.merge (a b : Arguments) : Arguments := ⟨a.plain ++ b.plain, a.named ++ b.named⟩

/-- The arguments with their names in order; of one name the last one counts. -/
def Arguments.normal (a : Arguments) : Arguments := ⟨a.plain, (Dict.ofList a.named).entries⟩

/-- The named arguments that a record gives. -/
def namedOf? (d : Datum) : Option (List (String × Datum)) :=
  match d with
  | .record entries => entries.mapM (fun entry => entry.1.text?.map (·, entry.2))
  | _ => none

mutual

def Expr.constant? : Expr → Option Datum
  | .text s => some (.text s)
  | .number n => some (.written n)
  | .fraction x => some (.fraction x)
  | .truth b => some (.truth b)
  | .nothing => some .nothing
  | .list items => (constants? items).map .list
  | .record entries => (constantEntries? entries).map .ofEntries
  | .negate e => e.constant?.bind Datum.negate?
  | .compute operation a b => do
    let x ← a.constant?
    let y ← b.constant?
    operation.result? x y
  | .compare first others => do
    let x ← first.constant?
    constantChain? x others
  | .not e => e.constant?.map (fun d => .truth !d.isTrue)
  | .and a b => do
    let x ← a.constant?
    let y ← b.constant?
    return if x.isTrue then y else .truth false
  | .or a b => do
    let x ← a.constant?
    let y ← b.constant?
    return if x.isTrue then x else y
  | _ => none

def constants? : List Expr → Option (List Datum)
  | [] => some []
  | e :: rest => do
    let d ← e.constant?
    return d :: (← constants? rest)

def constantEntries? : List Entry → Option (List (Datum × Datum))
  | [] => some []
  | .entry key value :: rest => do
    let k ← key.constant?
    let v ← value.constant?
    return (k, v) :: (← constantEntries? rest)

/-- Whether each of some data that are written out compares with the next. -/
def constantChain? (x : Datum) : List Compared → Option Datum
  | [] => some (.truth true)
  | .to relation e :: rest => do
    let y ← e.constant?
    let holds ← relation.holds? x y
    let others ← constantChain? y rest
    return .truth (holds && others.isTrue)

end

mutual

/-- What an expression stands for, unless it cannot be computed. -/
def Expr.eval? (scope : Scope) : Expr → Option Datum
  | .variable name => some (scope.datum name)
  | .text s => some (.text s)
  | .number n => some (.written n)
  | .fraction x => some (.fraction x)
  | .truth b => some (.truth b)
  | .nothing => some .nothing
  | .undefined => some .undefined
  | .list items => (evalAll? scope items).map .list
  | .record entries => (evalEntries? scope entries).map .ofEntries
  | .attribute base name => do
    let d ← base.eval? scope
    if d.isUndefined then none else return d.field name
  | .item base index => do
    let d ← base.eval? scope
    let i ← index.eval? scope
    if d.isUndefined then none else return d.item i
  | .slice base start stop step => do
    let d ← base.eval? scope
    let start ← start.eval? scope
    let stop ← stop.eval? scope
    let step ← step.eval? scope
    d.slice? start stop step
  | .call function arguments => do
    let f ← function.eval? scope
    let a ← evalArguments? scope arguments
    match f with
    | .helper h => h.call? a.normal
    | _ => none
  | .filter base name arguments => do
    let d ← base.eval? scope
    let a ← evalArguments? scope arguments
    applyFilter? name d a.normal
  | .test base name arguments => do
    let d ← base.eval? scope
    let a ← evalArguments? scope arguments
    return .truth (← applyTest? name d a.normal)
  | .negate e => do (← e.eval? scope).negate?
  | .compute operation a b => do
    let x ← a.eval? scope
    let y ← b.eval? scope
    operation.result? x y
  | .compare first others => do
    let x ← first.eval? scope
    return .truth (← holdAll? scope x others)
  | .not e => do return .truth (!(← e.eval? scope).isTrue)
  | .and a b =>
    match (Expr.and a b).constant? with
    | some d => some d
    | none => do
      let x ← a.eval? scope
      if x.isTrue then b.eval? scope else return x
  | .or a b => do
    let x ← a.eval? scope
    if x.isTrue then return x else b.eval? scope
  | .choose condition yes no => do
    let c ← condition.eval? scope
    if c.isTrue then yes.eval? scope else no.eval? scope

def evalAll? (scope : Scope) : List Expr → Option (List Datum)
  | [] => some []
  | e :: rest => do
    let d ← e.eval? scope
    return d :: (← evalAll? scope rest)

def evalEntries? (scope : Scope) : List Entry → Option (List (Datum × Datum))
  | [] => some []
  | .entry key value :: rest => do
    let k ← key.eval? scope
    let v ← value.eval? scope
    return (k, v) :: (← evalEntries? scope rest)

/-- Whether each of some data compares with the next, `x` being the first of them. Nothing is
computed after the first comparison that does not hold. -/
def holdAll? (scope : Scope) (x : Datum) : List Compared → Option Bool
  | [] => some true
  | .to relation e :: rest => do
    let y ← e.eval? scope
    if ← relation.holds? x y then holdAll? scope y rest else return false

def evalArguments? (scope : Scope) : List Argument → Option Arguments
  | [] => some ⟨[], []⟩
  | .plain e :: rest => do
    let d ← e.eval? scope
    return Arguments.merge ⟨[d], []⟩ (← evalArguments? scope rest)
  | .named name e :: rest => do
    let d ← e.eval? scope
    return Arguments.merge ⟨[], [(name, d)]⟩ (← evalArguments? scope rest)
  | .spread e :: rest => do
    let items ← (← e.eval? scope).parts?
    return Arguments.merge ⟨items, []⟩ (← evalArguments? scope rest)
  | .spreadNamed e :: rest => do
    let named ← namedOf? (← e.eval? scope)
    return Arguments.merge ⟨[], named⟩ (← evalArguments? scope rest)

end

mutual

/-- Assign a value, or the items of one, to a target. -/
def Target.bind? (d : Datum) (scope : Scope) : Target → Option Scope
  | .name s => some (scope.assign s d)
  | .field name field =>
    match scope.datum name with
    | .record entries =>
      some (scope.replace name (.record (Datum.insertEntry entries (.text field) d)))
    | _ => none
  | .several targets => do bindAll? (← elements? d) scope targets

/-- Assign values to as many targets, one by one. -/
def bindAll? (values : List Datum) (scope : Scope) : List Target → Option Scope
  | [] => if values.isEmpty then some scope else none
  | target :: targets =>
    match values with
    | [] => none
    | d :: values => do bindAll? values (← target.bind? d scope) targets

end

end Printworks.FileName
