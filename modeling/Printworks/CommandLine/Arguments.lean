import Printworks.Dict

/-!
# Arguments

The arguments are options and words. An option begins with two dashes and takes a value, which is
the rest of the argument behind an equals sign or else the next argument; that one may not look like
an option. Two dashes alone end the options. What cannot be understood is refused as a whole.
-/

namespace Printworks.CommandLine

inductive Command where
  | nothing
  | validate (file : String)
  | bind (file : String)
  /-- Show the status of a job to a requester. -/
  | status (reference : String) (user : Option String) (roles : List String)
  deriving DecidableEq, Inhabited

structure Invocation where
  dataFolder : Option String
  command : Command
  deriving DecidableEq, Inhabited

inductive Refusal where
  | version
  | help
  | misuse
  deriving DecidableEq, Inhabited

structure OptionRule where
  name : String
  /-- Whether the option may be given more than once. -/
  repeatable : Bool
  /-- Whether the value may be empty. -/
  mayBeEmpty : Bool
  deriving DecidableEq, Inhabited

/-- What may stand at a level of the command line. -/
structure Grammar where
  options : List OptionRule
  /-- How many words there may be. -/
  words : Nat
  /-- Whether words may be empty. -/
  emptyWords : Bool
  hasVersion : Bool
  deriving DecidableEq, Inhabited

/-- What has been read at a level. -/
structure Level where
  options : Entries String
  words : List String
  deriving DecidableEq, Inhabited

namespace Level

def all (l : Level) (name : String) : List String :=
  (l.options.filter (fun o => o.1 == name)).map (·.2)

def value? (l : Level) (name : String) : Option String := l.options.find? name

def addOption (g : Grammar) (l : Level) (name value : String) : Except Refusal Level :=
  match g.options.find? (fun rule => rule.name == name) with
  | none => .error .misuse
  | some rule =>
    if (value.isEmpty && !rule.mayBeEmpty) || (!rule.repeatable && (l.value? name).isSome) then
      .error .misuse
    else .ok { l with options := l.options ++ [(name, value)] }

def addWord (g : Grammar) (l : Level) (word : String) : Except Refusal Level :=
  if l.words.length < g.words ∧ (g.emptyWords ∨ ¬ word.isEmpty) then
    .ok { l with words := l.words ++ [word] }
  else .error .misuse

def addWords (g : Grammar) (l : Level) (words : List String) : Except Refusal Level :=
  words.foldlM (addWord g) l

end Level

inductive Shape where
  | dashes
  | option (name : String) (value : Option String)
  /-- Letters behind one dash. -/
  | letters (first : Char)
  | word
  deriving DecidableEq, Inhabited

def shape (arg : String) : Shape :=
  match arg.toList with
  | ['-', '-'] => .dashes
  | '-' :: '-' :: rest =>
    let name := String.ofList (rest.takeWhile (fun c => c != '='))
    match rest.dropWhile (fun c => c != '=') with
    | [] => .option name none
    | _ :: value => .option name (some (String.ofList value))
  | '-' :: first :: _ => .letters first
  | _ => .word

/-- What an argument asks for instead of a command. -/
def refusal? (g : Grammar) (s : Shape) : Option Refusal :=
  match s with
  | .option "help" none => some .help
  | .letters 'h' => some .help
  | .option "version" none => if g.hasVersion then some .version else some .misuse
  | .letters 'V' => if g.hasVersion then some .version else some .misuse
  | .letters _ => some .misuse
  | _ => none

/-- Read the options and words of a level. At a level without words reading stops at the first
word, and the arguments from there on are given back. -/
def Level.read (g : Grammar) (l : Level) (args : List String) :
    Except Refusal (Level × List String) :=
  match args with
  | [] => .ok (l, [])
  | arg :: rest =>
    match refusal? g (shape arg), shape arg, rest with
    | some refusal, _, _ => .error refusal
    | none, .dashes, words => (l.addWords g words).map (fun l => (l, []))
    | none, .option name (some value), rest =>
      match l.addOption g name value with
      | .error e => .error e
      | .ok l => Level.read g l rest
    | none, .option name none, value :: rest =>
      -- A value that looks like an option has been forgotten, and the option is what follows.
      if shape value = .word then
        match l.addOption g name value with
        | .error e => .error e
        | .ok l => Level.read g l rest
      else .error .misuse
    | none, .option _ none, [] => .error .misuse
    | none, .letters _, _ => .error .misuse
    | none, .word, rest =>
      if g.words = 0 then .ok (l, arg :: rest)
      else
        match l.addWord g arg with
        | .error e => .error e
        | .ok l => Level.read g l rest

/-- The option that names the folder for data. It may stand at every level. -/
def dataOption : OptionRule := ⟨"data-dir", false, false⟩

def outerGrammar : Grammar := ⟨[dataOption], 0, false, true⟩

def fileGrammar : Grammar := ⟨[dataOption], 1, false, false⟩

def statusGrammar : Grammar :=
  ⟨[dataOption, ⟨"user", false, true⟩, ⟨"role", true, true⟩], 1, true, false⟩

def commandNames : List String := ["validate", "bind", "status", "help"]

def readCommand (g : Grammar) (args : List String) (make : Level → String → Command) :
    Except Refusal Invocation :=
  match Level.read g default args with
  | .error e => .error e
  | .ok (l, _) =>
    match l.words with
    | [word] => .ok ⟨l.value? dataOption.name, make l word⟩
    | _ => .error .misuse

def readNamed (name : String) (args : List String) : Except Refusal Invocation :=
  match name with
  | "validate" => readCommand fileGrammar args (fun _ file => .validate file)
  | "bind" => readCommand fileGrammar args (fun _ file => .bind file)
  | "status" =>
    readCommand statusGrammar args (fun l reference =>
      .status reference (l.value? "user") (l.all "role"))
  | "help" => .error (if args.length ≤ 1 ∧ args.all commandNames.contains then .help else .misuse)
  | _ => .error .misuse

/-- Read the arguments of the program. A folder named behind the command counts before one named in
front of it. -/
def Invocation.read (args : List String) : Except Refusal Invocation :=
  match Level.read outerGrammar default args with
  | .error e => .error e
  | .ok (l, []) => .ok ⟨l.value? dataOption.name, .nothing⟩
  | .ok (l, name :: rest) =>
    match readNamed name rest with
    | .error e => .error e
    | .ok i => .ok { i with dataFolder := i.dataFolder <|> l.value? dataOption.name }

end Printworks.CommandLine
