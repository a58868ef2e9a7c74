import Printworks.Json.Schema

/-!
# Access

Every job carries an assertion on those who may ask for it. An assertion that names roles wants the
requester to be known and to have one of them; a conjunction wants all its members to pass.
-/

namespace Printworks

/-- Names in increasing order, each once: a map that says nothing about its names. -/
abbrev Names := Dict Unit

def Names.ofList (names : List String) : Names := Dict.ofList (names.map (·, ()))

inductive Access where
  | alwaysAllow
  /-- The requester has to be known and to have one of the roles. -/
  | roles (roles : Names)
  /-- Every assertion has to pass. -/
  | all (assertions : List Access)
  deriving Inhabited

/-- Who makes a request. -/
structure Capability where
  /-- The name of the requester, if it is known. -/
  principal : Option String
  roles : Names
  deriving DecidableEq, Inhabited

namespace Capability

def anonymous : Capability := ⟨none, ∅⟩

def user (principal : String) (roles : List String) : Capability :=
  ⟨some principal, .ofList roles⟩

def isAuthenticated (c : Capability) : Bool := c.principal.isSome

end Capability

namespace Access

mutual

def decEq (a b : Access) : Decidable (a = b) :=
  match a, b with
  | alwaysAllow, alwaysAllow => isTrue rfl
  | roles x, roles y => if h : x = y then isTrue (h ▸ rfl) else isFalse (by simpa using h)
  | all x, all y => match decEqList x y with
    | isTrue h => isTrue (h ▸ rfl)
    | isFalse h => isFalse (by simpa using h)
  | alwaysAllow, roles _ | alwaysAllow, all _ => isFalse nofun
  | roles _, alwaysAllow | roles _, all _ => isFalse nofun
  | all _, alwaysAllow | all _, roles _ => isFalse nofun

def decEqList (a b : List Access) : Decidable (a = b) :=
  match a, b with
  | [], [] => isTrue rfl
  | x :: xs, y :: ys => match decEq x y, decEqList xs ys with
    | isTrue h, isTrue k => isTrue (h ▸ k ▸ rfl)
    | isFalse h, _ => isFalse (fun e => h (List.cons.inj e).1)
    | _, isFalse k => isFalse (fun e => k (List.cons.inj e).2)
  | [], _ :: _ => isFalse nofun
  | _ :: _, [] => isFalse nofun

end

instance : DecidableEq Access := decEq

/-- The assertion that one of some roles is held. No roles means that everyone passes. -/
def anyOf (names : List String) : Access :=
  if names.isEmpty then alwaysAllow else roles (.ofList names)

/-- The members that an assertion brings into a conjunction. -/
def members (a : Access) : List Access :=
  match a with
  | alwaysAllow => []
  | all assertions => assertions
  | a => [a]

/-- The conjunction of two assertions. Conjunctions are not nested in it, and what always passes is
left out. -/
def and (a b : Access) : Access :=
  match a.members ++ b.members with
  | [] => alwaysAllow
  | [single] => single
  | assertions => all assertions

mutual

def check (c : Capability) : Access → Bool
  | alwaysAllow => true
  | roles names => c.isAuthenticated && names.keys.any c.roles.contains
  | all assertions => checkAll c assertions

def checkAll (c : Capability) : List Access → Bool
  | [] => true
  | a :: rest => check c a && checkAll c rest

end

mutual

def encode : Access → Json
  | alwaysAllow => .object [("type", .text "always_allow")]
  | roles names => .object [("type", .text "roles"), ("roles", .texts names.keys)]
  | all assertions =>
    .object [("type", .text "and"), ("assertions", .array (encodeAll assertions))]

def encodeAll : List Access → List Json
  | [] => []
  | a :: rest => encode a :: encodeAll rest

end

/-- The kinds of assertions, in the order of their numbers. -/
def kinds : List String := ["always_allow", "roles", "and"]

/-- The kind that a document names. Within a conjunction the number of a kind names it too. -/
def kind? (nested : Bool) (j : Json) : Option String :=
  match j with
  | .text s => if kinds.contains s then some s else none
  | .number (.int n) => if nested && decide (0 ≤ n) then kinds[n.toNat]? else none
  | _ => none

/-- The assertion of a kind whose only part, if it has one, is a list of names. -/
def ofNames? (kind : String) (parts : Option Json) : Option Access :=
  match kind, parts with
  | "roles", some names =>
    (Json.list? Json.text? names).map (fun names => roles (.ofList names))
  | _, _ => none

mutual

/-- The assertion of a document: an object with the kind and its part, or an array of the two. -/
def decodeIn? (nested : Bool) : Json → Option Access
  | .object entries =>
    match Json.part? entries "type" with
    | some (some kind) =>
      match kind? nested kind with
      | some "always_allow" => some alwaysAllow
      | some "roles" => (Json.part? entries "roles").bind (ofNames? "roles")
      | some "and" =>
        match Json.part? entries "assertions" with
        | some (some _) => decodeMembers? entries
        | _ => none
      | _ => none
    | _ => none
  | .array [kind] => if kind? nested kind = some "always_allow" then some alwaysAllow else none
  | .array [kind, part] =>
    match kind? nested kind with
    | some "roles" => ofNames? "roles" (some part)
    | some "and" => decodeMember? part
    | _ => none
  | _ => none

/-- The conjunction of the members among some entries. -/
def decodeMembers? : List (String × Json) → Option Access
  | [] => none
  | (key, part) :: rest => if key = "assertions" then decodeMember? part else decodeMembers? rest

/-- The conjunction of the members that an array lists. -/
def decodeMember? : Json → Option Access
  | .array items => (decodeList? items).map all
  | _ => none

def decodeList? : List Json → Option (List Access)
  | [] => some []
  | item :: rest =>
    match decodeIn? true item, decodeList? rest with
    | some a, some as => some (a :: as)
    | _, _ => none

end

def decode? (j : Json) : Option Access := decodeIn? false j

example : decode? (encode (all [roles (.ofList ["a"]), all []])) = some (all [roles (.ofList ["a"]), all []]) := by
  decide

end Access

end Printworks
