import Printworks.FileName.Token

/-!
# Expressions in templates

The form of an expression, read from its tokens. From the loosest to the tightest, expressions are
joined by choice, `or`, `and`, `not`, comparison, sum and difference, joining of texts, product and
quotient, and power; a sign belongs to the atom after it, and attributes, items, calls, filters and
tests to the operand before them.
-/

namespace Printworks.FileName

inductive Relation where
  | equal
  | unequal
  | less
  | atMost
  | greater
  | atLeast
  | inside
  | outside
  deriving DecidableEq, Inhabited

inductive Operation where
  | add
  | subtract
  | multiply
  | divide
  | divideWhole
  | remainder
  | raise
  /-- The texts of both, one after the other. -/
  | join
  deriving DecidableEq, Inhabited

mutual

inductive Expr where
  | variable (name : String)
  | text (s : String)
  | number (n : Nat)
  | fraction (x : Double)
  | truth (b : Bool)
  | nothing
  | undefined
  | list (items : List Expr)
  | record (entries : List Entry)
  | attribute (base : Expr) (name : String)
  | item (base index : Expr)
  /-- Every so many items from one place up to another. -/
  | slice (base start stop step : Expr)
  | call (function : Expr) (arguments : List Argument)
  | filter (base : Expr) (name : String) (arguments : List Argument)
  | test (base : Expr) (name : String) (arguments : List Argument)
  | negate (e : Expr)
  | compute (operation : Operation) (a b : Expr)
  /-- Every comparison is between two neighbours. -/
  | compare (first : Expr) (others : List Compared)
  | not (e : Expr)
  | and (a b : Expr)
  | or (a b : Expr)
  | choose (condition yes no : Expr)

inductive Entry where
  | entry (key value : Expr)

/-- An argument of a filter, a test or a call. -/
inductive Argument where
  | plain (e : Expr)
  | named (name : String) (e : Expr)
  /-- Every item of a list is an argument. -/
  | spread (e : Expr)
  /-- Every entry of a record is a named argument. -/
  | spreadNamed (e : Expr)

inductive Compared where
  | to (relation : Relation) (e : Expr)

end

instance : Inhabited Expr := ⟨.undefined⟩

/-- A reader takes something off the front of the tokens. -/
abbrev Reader (α : Type) := List Token → Option (α × List Token)

/-- The constant or variable of a name. -/
def named (s : String) : Expr :=
  match s with
  | "true" => .truth true
  | "True" => .truth true
  | "false" => .truth false
  | "False" => .truth false
  | "none" => .nothing
  | "None" => .nothing
  | s => .variable s

/-- What an operator makes of the operands on its two sides. -/
abbrev Operator := Expr → Expr → Expr

/-- Go on reading operands while operators join them, from left to right. -/
def readChain? (fuel : Nat) (operand : Reader Expr) (operator? : Token → Option Operator)
    (left : Expr) : Reader Expr := fun ts =>
  match fuel, ts with
  | fuel + 1, t :: rest =>
    match operator? t with
    | none => some (left, ts)
    | some operator =>
      (operand rest).bind (fun (right, ts) =>
        readChain? fuel operand operator? (operator left right) ts)
  | _, ts => some (left, ts)

/-- Read operands that operators join, from left to right. -/
def readJoined? (operand : Reader Expr) (operator? : Token → Option Operator) : Reader Expr :=
  fun ts => (operand ts).bind (fun (left, ts) => readChain? ts.length operand operator? left ts)

/-- Go on reading parts up to a closing sign. A comma stands between them, and may stand after the
last. `after` says whether one stands before. -/
def readParts? {α : Type} (fuel : Nat) (part : Reader α) (stop : Token) (after : Bool) :
    Reader (List α) := fun ts =>
  match fuel, ts with
  | _, [] => none
  | 0, _ => none
  | fuel + 1, t :: rest =>
    if t = stop then some ([], rest)
    else
      let go (ts : List Token) : Option (List α × List Token) :=
        (part ts).bind (fun (e, ts) =>
          (readParts? fuel part stop true ts).map (fun (es, ts) => (e :: es, ts)))
      if !after then go ts
      else if t = .symbol ',' then
        match rest with
        | t :: more => if t = stop then some ([], more) else go rest
        | [] => none
      else none

def readKeyed? (expr : Reader Expr) : Reader Entry := fun ts =>
  match expr ts with
  | some (key, .symbol ':' :: ts) => (expr ts).map (fun (value, ts) => (.entry key value, ts))
  | _ => none

/-- What an argument is when its expression has been read. A name before an equals sign makes it a
named one, and after a named one there are no plain ones. -/
def readNamed? (expr : Reader Expr) (onlyNamed : Bool) (e : Expr) : Reader Argument := fun ts =>
  match e, ts with
  | .variable name, .symbol '=' :: ts => (expr ts).map (fun (e, ts) => (.named name e, ts))
  | e, ts => if onlyNamed then none else some (.plain e, ts)

def readArgument? (expr : Reader Expr) (onlyNamed : Bool) : Reader Argument := fun ts =>
  match ts with
  | .power :: ts => (expr ts).map (fun (e, ts) => (.spreadNamed e, ts))
  | .symbol '*' :: ts => (expr ts).map (fun (e, ts) => (.spread e, ts))
  | ts => (expr ts).bind (fun (e, ts) => readNamed? expr onlyNamed e ts)

def Argument.isNamed (a : Argument) : Bool :=
  match a with
  | named _ _ => true
  | spreadNamed _ => true
  | _ => false

/-- Go on reading arguments up to the closing parenthesis. A comma stands between them, and may
stand after the last. `first` says whether none has been read, and `onlyNamed` whether one of those
before is named. -/
def readArguments? (fuel : Nat) (expr : Reader Expr) (first onlyNamed : Bool) :
    Reader (List Argument) := fun ts =>
  match fuel, ts with
  | _, .symbol ')' :: ts => some ([], ts)
  | 0, _ => none
  | fuel + 1, ts =>
    let go (ts : List Token) : Option (List Argument × List Token) :=
      (readArgument? expr onlyNamed ts).bind (fun (a, ts) =>
        (readArguments? fuel expr false (onlyNamed || a.isNamed) ts).map (fun (as, ts) =>
          (a :: as, ts)))
    if first then go ts
    else match ts with
      | .symbol ',' :: .symbol ')' :: ts => some ([], ts)
      | .symbol ',' :: ts => go ts
      | _ => none

/-- The texts that stand next to each other after a first one, put together. -/
def readTexts (s : String) (ts : List Token) : String × List Token :=
  match ts with
  | .text t :: ts => readTexts (s ++ t) ts
  | ts => (s, ts)

/-- Read a name, a literal, an expression in parentheses, a list in parentheses or brackets, or a
record in braces. A list in parentheses has a comma. -/
def readAtom? (expr : Reader Expr) : Reader Expr := fun ts =>
  match ts with
  | .name s :: ts => some (named s, ts)
  | .text s :: ts =>
    let (s, ts) := readTexts s ts
    some (.text s, ts)
  | .number n :: ts => some (.number n, ts)
  | .fraction x :: ts => some (.fraction x, ts)
  | .symbol '[' :: ts =>
    (readParts? (ts.length + 1) expr (.symbol ']') false ts).map
      (fun (items, ts) => (.list items, ts))
  | .symbol '\x7b' :: ts =>
    (readParts? (ts.length + 1) (readKeyed? expr) (.symbol '\x7d') false ts).map
      (fun (entries, ts) => (.record entries, ts))
  | .symbol '(' :: .symbol ')' :: ts => some (.list [], ts)
  | .symbol '(' :: ts =>
    (expr ts).bind (fun (e, ts) =>
      match ts with
      | .symbol ')' :: ts => some (e, ts)
      | ts =>
        (readParts? (ts.length + 1) expr (.symbol ')') true ts).map
          (fun (items, ts) => (.list (e :: items), ts)))
  | _ => none

/-- Read an atom with any number of signs before it. -/
def readSigned? (atom : Reader Expr) : Reader Expr := fun ts =>
  match ts with
  | .symbol '-' :: ts => (readSigned? atom ts).map (fun (e, ts) => (.negate e, ts))
  | ts => atom ts

/-- Read an expression, unless one of some signs stands there instead. -/
def readUnless? (expr : Reader Expr) (signs : List Token) : Reader Expr := fun ts =>
  if ts.head?.any (fun t => signs.contains t) then some (.nothing, ts) else expr ts

/-- Go on reading a slice after its first colon. -/
def readSlice? (expr : Reader Expr) (base start : Expr) : Reader Expr := fun ts =>
  (readUnless? expr [.symbol ']', .symbol ':'] ts).bind (fun (stop, ts) =>
    match ts with
    | .symbol ']' :: ts => some (.slice base start stop .nothing, ts)
    | .symbol ':' :: ts =>
      match readUnless? expr [.symbol ']'] ts with
      | some (step, .symbol ']' :: ts) => some (.slice base start stop step, ts)
      | _ => none
    | _ => none)

def readPlace? (expr : Reader Expr) (base : Expr) : Reader Expr := fun ts =>
  match ts with
  | .symbol ':' :: ts => readSlice? expr base .nothing ts
  | ts =>
    match expr ts with
    | some (index, .symbol ']' :: ts) => some (.item base index, ts)
    | some (start, .symbol ':' :: ts) => readSlice? expr base start ts
    | _ => none

/-- Go on reading attributes, items and calls. -/
def readSuffixes? (fuel : Nat) (expr : Reader Expr) (base : Expr) : Reader Expr := fun ts =>
  match fuel, ts with
  | fuel + 1, .symbol '.' :: ts =>
    match ts with
    | .name s :: ts => readSuffixes? fuel expr (.attribute base s) ts
    | .number n :: ts => readSuffixes? fuel expr (.item base (.number n)) ts
    | _ => none
  | fuel + 1, .symbol '[' :: ts =>
    (readPlace? expr base ts).bind (fun (e, ts) => readSuffixes? fuel expr e ts)
  | fuel + 1, .symbol '(' :: ts =>
    (readArguments? ts.length expr true false ts).bind (fun (arguments, ts) =>
      readSuffixes? fuel expr (.call base arguments) ts)
  | _, ts => some (base, ts)

/-- Go on reading the name of a filter or a test, whose parts are separated by points. -/
def readDotted? (name : String) : Reader String := fun ts =>
  match ts with
  | .symbol '.' :: .name s :: ts => readDotted? (name ++ "." ++ s) ts
  | .symbol '.' :: _ => none
  | ts => some (name, ts)

def readOptionalArguments? (expr : Reader Expr) : Reader (List Argument) := fun ts =>
  match ts with
  | .symbol '(' :: ts => readArguments? ts.length expr true false ts
  | ts => some ([], ts)

/-- Whether the only argument of a test may start with a token, without parentheses. -/
def startsTestArgument (t : Token) : Bool :=
  match t with
  | .name s => !(["and", "or", "else", "is"].contains s)
  | .text _ => true
  | .number _ => true
  | .fraction _ => true
  | .symbol c => ['-', '[', '\x7b'].contains c
  | _ => false

/-- Read the arguments of a test: in parentheses, or one without them. -/
def readTestArguments? (expr atomExpr : Reader Expr) : Reader (List Argument) := fun ts =>
  if ts.head?.any startsTestArgument then
    (readSigned? (readAtom? atomExpr) ts).bind (fun (e, ts) =>
      (readSuffixes? ts.length expr e ts).map (fun (e, ts) => ([.plain e], ts)))
  else readOptionalArguments? expr ts

/-- Read a test after its first word. -/
def readTest? (expr atomExpr : Reader Expr) (base : Expr) : Reader Expr := fun ts =>
  let read (ts : List Token) : Option (Expr × List Token) :=
    match ts with
    | .name s :: ts =>
      (readDotted? s ts).bind (fun (name, ts) =>
        (readTestArguments? expr atomExpr ts).map (fun (arguments, ts) =>
          (.test base name arguments, ts)))
    | _ => none
  match ts with
  | .name "not" :: ts => (read ts).map (fun (e, ts) => (.not e, ts))
  | ts => read ts

def readFilter? (expr : Reader Expr) (base : Expr) : Reader Expr := fun ts =>
  match ts with
  | .name s :: ts =>
    (readDotted? s ts).bind (fun (name, ts) =>
      (readOptionalArguments? expr ts).map (fun (arguments, ts) =>
        (.filter base name arguments, ts)))
  | _ => none

/-- Go on reading filters and tests. -/
def readFilters? (fuel : Nat) (expr atomExpr : Reader Expr) (base : Expr) : Reader Expr :=
  fun ts =>
    match fuel, ts with
    | fuel + 1, .symbol '|' :: ts =>
      (readFilter? expr base ts).bind (fun (e, ts) => readFilters? fuel expr atomExpr e ts)
    | fuel + 1, .name "is" :: ts =>
      (readTest? expr atomExpr base ts).bind (fun (e, ts) => readFilters? fuel expr atomExpr e ts)
    | _, ts => some (base, ts)

/-- Read an operand: a signed atom with attributes, items and calls, and then filters and tests. -/
def readOperand? (expr atomExpr : Reader Expr) : Reader Expr := fun ts =>
  (readSigned? (readAtom? atomExpr) ts).bind (fun (e, ts) =>
    (readSuffixes? ts.length expr e ts).bind (fun (e, ts) =>
      readFilters? ts.length expr atomExpr e ts))

def operationOf? (signs : List (Token × Operation)) (t : Token) : Option Operator :=
  (signs.find? (fun sign => sign.1 == t)).map (fun sign => .compute sign.2)

def powerSigns : List (Token × Operation) := [(.power, .raise)]

def factorSigns : List (Token × Operation) :=
  [(.symbol '*', .multiply), (.symbol '/', .divide), (.wholeOver, .divideWhole),
    (.symbol '%', .remainder)]

def joinSigns : List (Token × Operation) := [(.symbol '~', .join)]

def termSigns : List (Token × Operation) := [(.symbol '+', .add), (.symbol '-', .subtract)]

def wordOf? (word : String) (operator : Operator) (t : Token) : Option Operator :=
  if t = .name word then some operator else none

def readRelation? : Reader Relation := fun ts =>
  match ts with
  | .equal :: ts => some (.equal, ts)
  | .unequal :: ts => some (.unequal, ts)
  | .symbol '<' :: ts => some (.less, ts)
  | .atMost :: ts => some (.atMost, ts)
  | .symbol '>' :: ts => some (.greater, ts)
  | .atLeast :: ts => some (.atLeast, ts)
  | .name "in" :: ts => some (.inside, ts)
  | .name "not" :: .name "in" :: ts => some (.outside, ts)
  | _ => none

/-- Go on reading what a sum is compared with. -/
def readCompared? (fuel : Nat) (sum : Reader Expr) : Reader (List Compared) := fun ts =>
  match fuel, readRelation? ts with
  | fuel + 1, some (relation, ts) =>
    (sum ts).bind (fun (e, ts) =>
      (readCompared? fuel sum ts).map (fun (others, ts) => (.to relation e :: others, ts)))
  | _, _ => some ([], ts)

def readComparison? (sum : Reader Expr) : Reader Expr := fun ts =>
  (sum ts).bind (fun (first, ts) =>
    (readCompared? ts.length sum ts).map (fun (others, ts) =>
      (if others.isEmpty then first else .compare first others, ts)))

def readNot? (comparison : Reader Expr) : Reader Expr := fun ts =>
  match ts with
  | .name "not" :: ts => (readNot? comparison ts).map (fun (e, ts) => (.not e, ts))
  | ts => comparison ts

def readPlain? (expr atomExpr : Reader Expr) : Reader Expr :=
  let powers := readJoined? (readOperand? expr atomExpr) (operationOf? powerSigns)
  let products := readJoined? powers (operationOf? factorSigns)
  let joins := readJoined? products (operationOf? joinSigns)
  let nots := readNot? (readComparison? (readJoined? joins (operationOf? termSigns)))
  readJoined? (readJoined? nots (wordOf? "and" .and)) (wordOf? "or" .or)

/-- Go on reading conditions under which an expression is chosen, and what is chosen without
them. -/
def readChoices? (fuel : Nat) (plain : Reader Expr) (yes : Expr) : Reader Expr := fun ts =>
  match fuel, ts with
  | fuel + 1, .name "if" :: ts =>
    (plain ts).bind (fun (condition, ts) =>
      match ts with
      | .name "else" :: ts =>
        (plain ts).bind (fun (no, ts) =>
          (readChoices? fuel plain no ts).bind (fun (no, ts) =>
            readChoices? fuel plain (.choose condition yes no) ts))
      | ts => readChoices? fuel plain (.choose condition yes .undefined) ts)
  | _, ts => some (yes, ts)

/-- Read an expression, `room` being how much deeper expressions may be nested. Itself and an atom
in it take two of it. `choices` says whether conditions may follow. -/
def readExpr? (room : Nat) (choices : Bool) : Reader Expr := fun ts =>
  match room with
  | room + 2 =>
    let plain := readPlain? (readExpr? (room + 1) true) (readExpr? room true)
    (plain ts).bind (fun (e, ts) =>
      if choices then readChoices? ts.length plain e ts else some (e, ts))
  | _ => none

/-- Read an expression that ends before a given token. -/
def readExprUpTo? (room : Nat) (choices : Bool) (stop : Token) : Reader Expr := fun ts =>
  match readExpr? room choices ts with
  | some (e, t :: ts) => if t = stop then some (e, ts) else none
  | _ => none

end Printworks.FileName
