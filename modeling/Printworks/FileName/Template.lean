import Printworks.FileName.Expression

/-!
# File name templates

The form of a template, read from its tokens: texts, values, branches, loops, assignments and what
is done with the text of a part. Expressions and tags may be nested at most 150 deep: every tag, every
expression that stands for itself, and every atom counts.
-/

namespace Printworks.FileName

/-- What a value is assigned to. -/
inductive Target where
  | name (s : String)
  /-- An entry of a record that a name stands for. -/
  | field (name : String) (field : String)
  /-- The items of a list are assigned one by one. -/
  | several (targets : List Target)
  deriving Inhabited

structure Filtering where
  name : String
  arguments : List Argument

inductive Node where
  | data (text : String)
  | value (e : Expr)
  | branch (condition : Expr) (yes no : List Node)
  /-- The body stands once for each item for which the condition holds, and `otherwise` if there is
  no such item. -/
  | loop (target : Target) (items condition : Expr) (body otherwise : List Node)
  | assign (target : Target) (e : Expr)
  /-- The text of the body, filtered, is assigned. -/
  | capture (target : Target) (filters : List Filtering) (body : List Node)
  /-- The body with names of its own. -/
  | local (bindings : List (Target × Expr)) (body : List Node)
  | filtered (filters : List Filtering) (body : List Node)
  | group (body : List Node)
  /-- Something is called for its effect. -/
  | perform (e : Expr)
  /-- Another template is asked for, which may be missing if `optional` holds. -/
  | external (optional : Bool)
  deriving Inhabited

/-- How deep expressions and tags may be nested. -/
def nestingMax : Nat := 150

/-- The names to which nothing can be assigned. -/
def reservedNames : List String :=
  ["true", "True", "false", "False", "none", "None", "loop", "self"]

def readFreeName? : Reader String := fun ts =>
  match ts with
  | .name s :: ts => if reservedNames.contains s then none else some (s, ts)
  | _ => none

/-- Whether targets end before a token. -/
def endsTargets (t : Token) : Bool :=
  t == .symbol ')' || t == .valueEnd || t == .tagEnd || t == .name "in"

mutual

def readTarget? (fuel : Nat) : Reader Target := fun ts =>
  match fuel, ts with
  | fuel + 1, .symbol '(' :: ts =>
    match readTargets? fuel ts with
    | some (targets, .symbol ')' :: ts) => some (targets, ts)
    | _ => none
  | _, ts => (readFreeName? ts).map (fun (s, ts) => (.name s, ts))

/-- Read targets with commas between them; one without a comma is that target itself. -/
def readTargets? (fuel : Nat) : Reader Target := fun ts =>
  match fuel with
  | 0 => none
  | fuel + 1 =>
    (readTarget? fuel ts).bind (fun (target, ts) =>
      match ts with
      | .symbol ',' :: ts =>
        (readMoreTargets? fuel ts).map (fun (more, ts) => (.several (target :: more), ts))
      | ts => some (target, ts))

/-- Go on reading targets after a comma. -/
def readMoreTargets? (fuel : Nat) : Reader (List Target) := fun ts =>
  match fuel with
  | 0 => none
  | fuel + 1 =>
    if ts.head?.any endsTargets then some ([], ts)
    else
      (readTarget? fuel ts).bind (fun (target, ts) =>
        match ts with
        | .symbol ',' :: ts =>
          (readMoreTargets? fuel ts).map (fun (more, ts) => (target :: more, ts))
        | ts => some ([target], ts))

end

/-- Read what stands on the left of an assignment. `parenthesized` says that it is in
parentheses. -/
def readAssigned? : Reader (Target × Bool) := fun ts =>
  match ts with
  | .symbol '(' :: ts =>
    match readTargets? (2 * ts.length + 1) ts with
    | some (target, .symbol ')' :: ts) => some ((target, true), ts)
    | _ => none
  | ts =>
    match readFreeName? ts with
    | some (s, .symbol '.' :: .name field :: ts) => some ((.field s field, false), ts)
    | some (s, ts) => some ((.name s, false), ts)
    | none => none

/-- Go on reading parts as long as a sign stands before the next one. -/
def readMore? {α : Type} (fuel : Nat) (sign : Token) (part : Reader α) : Reader (List α) :=
  fun ts =>
    match fuel, ts with
    | fuel + 1, t :: rest =>
      if t = sign then
        (part rest).bind (fun (p, ts) =>
          (readMore? fuel sign part ts).map (fun (more, ts) => (p :: more, ts)))
      else some ([], t :: rest)
    | _, ts => some ([], ts)

/-- Read parts that a sign separates. -/
def readSeparated? {α : Type} (sign : Token) (part : Reader α) : Reader (List α) := fun ts =>
  (part ts).bind (fun (p, ts) =>
    (readMore? ts.length sign part ts).map (fun (more, ts) => (p :: more, ts)))

def readFiltering? (expr : Reader Expr) : Reader Filtering := fun ts =>
  match ts with
  | .name s :: ts =>
    (readDotted? s ts).bind (fun (name, ts) =>
      (readOptionalArguments? expr ts).map (fun (arguments, ts) => (⟨name, arguments⟩, ts)))
  | _ => none

def readFilterings? (expr : Reader Expr) : Reader (List Filtering) :=
  readSeparated? (.symbol '|') (readFiltering? expr)

def readBinding? (expr : Reader Expr) : Reader (Target × Expr) := fun ts =>
  match readTarget? (2 * ts.length + 1) ts with
  | some (target, .symbol '=' :: ts) => (expr ts).map (fun (e, ts) => ((target, e), ts))
  | _ => none

def readBindings? (expr : Reader Expr) : Reader (List (Target × Expr)) := fun ts =>
  match ts with
  | .tagEnd :: ts => some ([], ts)
  | ts =>
    match readSeparated? (.symbol ',') (readBinding? expr) ts with
    | some (bindings, .tagEnd :: ts) => some (bindings, ts)
    | _ => none

def readImported? : Reader Unit := fun ts =>
  match readFreeName? ts with
  | some (_, .name "as" :: ts) => (readFreeName? ts).map (fun (_, ts) => ((), ts))
  | some (_, ts) => some ((), ts)
  | none => none

def readImports? : Reader Unit := fun ts =>
  match ts with
  | .tagEnd :: ts => some ((), .tagEnd :: ts)
  | ts =>
    (readSeparated? (.symbol ',') readImported? ts).map (fun (_, ts) =>
      match ts with
      | .symbol ',' :: .tagEnd :: ts => ((), .tagEnd :: ts)
      | ts => ((), ts))

def readExternal? (expr : Reader Expr) (word : String) : Reader Node := fun ts =>
  (expr ts).bind (fun (_, ts) =>
    match word, ts with
    | "include", .name "ignore" :: .name "missing" :: ts => some (.external true, ts)
    | "include", ts => some (.external false, ts)
    | "extends", ts => some (.external false, ts)
    | "import", .name "as" :: ts => (readFreeName? ts).map (fun (_, ts) => (.external false, ts))
    | "from", .name "import" :: ts =>
      (readImports? ts).map (fun (_, ts) => (.external false, ts))
    | _, _ => none)

def Expr.isCall (e : Expr) : Bool :=
  match e with
  | call _ _ => true
  | _ => false

mutual

/-- Read parts up to the end of the template or to a tag whose name is among those given. Leaves the
name of that tag. -/
def readNodes? (fuel room : Nat) (stops : List String) : Reader (List Node) := fun ts =>
  match fuel, ts with
  | _, [] => some ([], [])
  | fuel + 1, .data s :: ts =>
    (readNodes? fuel room stops ts).map (fun (nodes, ts) => (.data s :: nodes, ts))
  | fuel + 1, .valueStart :: ts =>
    (readExprUpTo? room true .valueEnd ts).bind (fun (e, ts) =>
      (readNodes? fuel room stops ts).map (fun (nodes, ts) => (.value e :: nodes, ts)))
  | fuel + 1, .tagStart :: .name s :: ts =>
    if stops.contains s then some ([], .name s :: ts)
    else if room = 0 then none
    else
      match readTag? fuel room s ts with
      | some (node, .tagEnd :: ts) =>
        (readNodes? fuel room stops ts).map (fun (nodes, ts) => (node :: nodes, ts))
      | _ => none
  | _, _ => none

/-- Read a tag after its name, with all that belongs to it, up to the name of the tag that ends it.
The tag takes one of the room. -/
def readTag? (fuel room : Nat) (word : String) : Reader Node := fun ts =>
  match fuel with
  | 0 => none
  | fuel + 1 =>
    let expr := readExpr? (room - 1) true
    match word with
    | "if" => readBranch? fuel room ts
    | "for" => readLoop? fuel room ts
    | "set" => readSet? fuel room ts
    | "with" =>
      (readBindings? expr ts).bind (fun (bindings, ts) =>
        (readBody? fuel room "endwith" ts).map (fun (body, ts) => (.local bindings body, ts)))
    | "filter" =>
      match readFilterings? expr ts with
      | some (filters, .tagEnd :: ts) =>
        (readBody? fuel room "endfilter" ts).map (fun (body, ts) => (.filtered filters body, ts))
      | _ => none
    | "block" =>
      match ts with
      | .name s :: .tagEnd :: ts =>
        (readBody? fuel room "endblock" ts).bind (fun (body, ts) =>
          match ts with
          | .name t :: ts => if s = t then some (.group body, ts) else none
          | ts => some (.group body, ts))
      | _ => none
    | "do" =>
      (expr ts).bind (fun (e, ts) => if e.isCall then some (.perform e, ts) else none)
    | word => readExternal? expr word ts

/-- Read parts up to a tag that ends them. Leaves nothing of its name. -/
def readBody? (fuel room : Nat) (stop : String) : Reader (List Node) := fun ts =>
  match fuel with
  | 0 => none
  | fuel + 1 =>
    match readNodes? fuel (room - 1) [stop] ts with
    | some (nodes, .name _ :: ts) => some (nodes, ts)
    | _ => none

/-- Read a condition and its branches. -/
def readBranch? (fuel room : Nat) : Reader Node := fun ts =>
  match fuel with
  | 0 => none
  | fuel + 1 =>
    (readExprUpTo? room false .tagEnd ts).bind (fun (condition, ts) =>
      (readNodes? fuel (room - 1) ["endif", "else", "elif"] ts).bind (fun (yes, ts) =>
        match ts with
        | .name "else" :: .tagEnd :: ts =>
          (readBody? fuel room "endif" ts).map (fun (no, ts) => (.branch condition yes no, ts))
        | .name "elif" :: ts =>
          (readBranch? fuel room ts).map (fun (no, ts) => (.branch condition yes [no], ts))
        | .name "endif" :: ts => some (.branch condition yes [], ts)
        | _ => none))

def readLoop? (fuel room : Nat) : Reader Node := fun ts =>
  match fuel, readTargets? (2 * ts.length + 1) ts with
  | fuel + 1, some (target, .name "in" :: ts) =>
    (readExpr? room false ts).bind (fun (items, ts) =>
      let condition? : Option (Expr × List Token) := match ts with
        | .name "if" :: ts => readExpr? (room - 1) true ts
        | ts => some (.truth true, ts)
      condition?.bind (fun (condition, ts) =>
        let ts := match ts with
          | .name "recursive" :: ts => ts
          | ts => ts
        match ts with
        | .tagEnd :: ts =>
          (readNodes? fuel (room - 1) ["endfor", "else"] ts).bind (fun (body, ts) =>
            match ts with
            | .name "else" :: .tagEnd :: ts =>
              (readBody? fuel room "endfor" ts).map (fun (otherwise, ts) =>
                (.loop target items condition body otherwise, ts))
            | .name "endfor" :: ts => some (.loop target items condition body [], ts)
            | _ => none)
        | _ => none))
  | _, _ => none

def readSet? (fuel room : Nat) : Reader Node := fun ts =>
  match fuel with
  | 0 => none
  | fuel + 1 =>
    let expr := readExpr? (room - 1) true
    match readAssigned? ts with
    | some ((target, _), .symbol '=' :: ts) =>
      (expr ts).map (fun (e, ts) => (.assign target e, ts))
    | some ((target, false), .tagEnd :: ts) =>
      (readBody? fuel room "endset" ts).map (fun (body, ts) => (.capture target [] body, ts))
    | some ((target, false), .symbol '|' :: ts) =>
      match readFilterings? expr ts with
      | some (filters, .tagEnd :: ts) =>
        (readBody? fuel room "endset" ts).map (fun (body, ts) =>
          (.capture target filters body, ts))
      | _ => none
    | _ => none

end

/-- The parts of a template, if it is well formed. -/
def parse? (template : String) : Option (List Node) :=
  match tokens? template with
  | none => none
  | some ts =>
    match readNodes? (4 * ts.length + 4) nestingMax [] ts with
    | some (nodes, []) => some nodes
    | _ => none

end Printworks.FileName
