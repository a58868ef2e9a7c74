import Mathlib.Data.List.Induction
import Printworks.Access
import Printworks.Proofs.Dict
import Printworks.Proofs.Json.ReadBack

/-!
# Assertions and their documents

Every assertion is the one that its document describes. Its text is read as the same assertion,
unless conjunctions are nested too deep in it for the reader. A conjunction is passed by those who pass
both of its assertions, though it is not nested and leaves out what always passes; so it makes no
difference in which order and with which brackets assertions are put together.
-/

namespace Printworks

@[simp] theorem Names.ofList_keys (names : Names) : Names.ofList names.keys = names := by
  have entries : names.keys.map (·, ()) = names.toList := by
    rw [Dict.keys, Dict.toList, List.map_map]
    exact List.map_id _
  rw [Names.ofList, entries]
  exact Dict.ofList_toList names

theorem Json.list?_texts (items : List String) :
    Json.list? Json.text? (.texts items) = some items := by
  simp only [Json.texts, Json.list?]
  induction items with
  | nil => rfl
  | cons item rest ih => simp [ih, Json.text?]

namespace Access

mutual

theorem decodeIn?_encode (nested : Bool) (a : Access) : decodeIn? nested a.encode = some a := by
  cases a with
  | alwaysAllow => simp [encode, decodeIn?, Json.part?, kind?, kinds]
  | roles names => simp [encode, decodeIn?, Json.part?, kind?, kinds, ofNames?, Json.list?_texts]
  | all assertions =>
    simp [encode, decodeIn?, Json.part?, kind?, kinds, decodeMembers?, decodeMember?,
      decodeList?_encodeAll assertions]

theorem decodeList?_encodeAll (assertions : List Access) :
    decodeList? (encodeAll assertions) = some assertions := by
  cases assertions with
  | nil => rfl
  | cons a rest => simp [encodeAll, decodeList?, decodeIn?_encode true a, decodeList?_encodeAll rest]

end

theorem decode?_encode (a : Access) : decode? a.encode = some a := decodeIn?_encode false a

theorem areNumberless_texts (items : List String) :
    Json.AreNumberless (items.map Json.text) := by
  induction items with
  | nil => trivial
  | cons item rest ih => exact ⟨trivial, ih⟩

mutual

theorem isNumberless_encode (a : Access) : a.encode.IsNumberless := by
  cases a with
  | alwaysAllow => simp [encode, Json.IsNumberless, Json.AreNumberlessEntries]
  | roles names =>
    simp [encode, Json.IsNumberless, Json.AreNumberlessEntries, Json.texts,
      areNumberless_texts]
  | all assertions =>
    simp [encode, Json.IsNumberless, Json.AreNumberlessEntries, areNumberless_encodeAll assertions]

theorem areNumberless_encodeAll (assertions : List Access) :
    Json.AreNumberless (encodeAll assertions) := by
  cases assertions with
  | nil => trivial
  | cons a rest => exact ⟨isNumberless_encode a, areNumberless_encodeAll rest⟩

end

/-- The text of an assertion is read as the assertion, exactly if it is not nested too deep. -/
theorem readBack (a : Access) : (Json.read? a.encode.compact).bind decode? =
    if a.encode.nesting ≤ Json.depthLimit then some a else none := by
  rw [Json.read?_compact _ (isNumberless_encode a)]
  by_cases room : a.encode.nesting ≤ Json.depthLimit
  · simp [room, decode?_encode]
  · simp [room]

/-! ### Conjunctions -/

theorem checkAll_append (c : Capability) (first second : List Access) :
    checkAll c (first ++ second) = (checkAll c first && checkAll c second) := by
  induction first with
  | nil => simp [checkAll]
  | cons a rest ih => simp [checkAll, ih, Bool.and_assoc]

/-- What an assertion brings into a conjunction says the same as the assertion. -/
theorem checkAll_members (c : Capability) (a : Access) : checkAll c a.members = check c a := by
  cases a <;> simp [members, checkAll, check]

/-- A conjunction is passed by those who pass both assertions. -/
theorem check_and (c : Capability) (a b : Access) :
    check c (a.and b) = (check c a && check c b) := by
  rw [← checkAll_members c a, ← checkAll_members c b, ← checkAll_append, and]
  split
  next none => simp [none, check, checkAll]
  next single one => simp [one, checkAll]
  next => simp [check]

/-- How assertions are put together: none, one, or those of two conjunctions. -/
inductive Bracketing where
  | nothing
  | single (a : Access)
  | both (first second : Bracketing)

namespace Bracketing

/-- The assertions that are put together, in their order. -/
def assertions (t : Bracketing) : List Access :=
  match t with
  | nothing => []
  | single a => [a]
  | both first second => first.assertions ++ second.assertions

/-- What the assertions are put together to. -/
def conjunction (t : Bracketing) : Access :=
  match t with
  | nothing => alwaysAllow
  | single a => a
  | both first second => first.conjunction.and second.conjunction

theorem check_iff (c : Capability) (t : Bracketing) :
    check c t.conjunction = true ↔ ∀ a ∈ t.assertions, check c a = true := by
  induction t with
  | nothing => simp [conjunction, assertions, check]
  | single a => simp [conjunction, assertions]
  | both first second first_ih second_ih =>
    rw [conjunction, check_and, Bool.and_eq_true, first_ih, second_ih, assertions,
      List.forall_mem_append]

/-- One assertion after the other, beginning with none. -/
def chain (assertions : List Access) : Bracketing :=
  assertions.foldl (fun t a => both t (single a)) nothing

theorem assertions_chain (assertions : List Access) : (chain assertions).assertions = assertions := by
  induction assertions using List.reverseRecOn with
  | nil => rfl
  | append_singleton assertions a ih =>
    rw [chain, List.foldl_append]
    exact congrArg (· ++ [a]) ih

theorem conjunction_chain (assertions : List Access) :
    (chain assertions).conjunction = assertions.foldl and alwaysAllow := by
  induction assertions using List.reverseRecOn with
  | nil => rfl
  | append_singleton assertions a ih =>
    rw [chain, List.foldl_append, List.foldl_append, ← ih]
    rfl

end Bracketing

/-- A conjunction of two assertions is passed by those who pass both. So whichever assertions there are,
in whichever order they are put together, one after the other or with any brackets, all of them have
to be passed, and nothing else. -/
theorem check_conjunction (c : Capability) :
    (∀ a b : Access, check c (a.and b) = (check c a && check c b)) ∧
    ∀ assertions ordered : List Access, ordered.Perm assertions →
      (check c (ordered.foldl and alwaysAllow) = true ↔ ∀ a ∈ assertions, check c a = true) ∧
      ∀ t : Bracketing, t.assertions = ordered →
        (check c t.conjunction = true ↔ ∀ a ∈ assertions, check c a = true) := by
  refine ⟨check_and c, fun assertions ordered order => ?_⟩
  have bracketed (t : Bracketing) (members : t.assertions = ordered) :
      check c t.conjunction = true ↔ ∀ a ∈ assertions, check c a = true := by
    rw [t.check_iff, members]
    exact forall_congr' (fun a => imp_congr_left order.mem_iff)
  -- To go through the list is one way of putting brackets.
  refine ⟨?_, bracketed⟩
  rw [← Bracketing.conjunction_chain]
  exact bracketed (.chain ordered) (Bracketing.assertions_chain ordered)

/-- An assertion for planners with an empty conjunction in it, one that always passes and one for the
city, which nobody passes who is not both. -/
theorem check_conjunction_planners :
    let planners := Access.all [.roles (.ofList ["planner"]), .all []]
    let city := Access.roles (.ofList ["city"])
    let t : Bracketing := .both (.both .nothing (.single planners))
      (.both (.single .alwaysAllow) (.single city))
    let ada := Capability.user "ada" ["city", "planner"]
    let bob := Capability.user "bob" ["planner"]
    t.assertions.Perm [city, planners, .alwaysAllow] ∧ check ada t.conjunction = true ∧
      check bob t.conjunction = false ∧
      check bob ([planners, .alwaysAllow, city].foldl and alwaysAllow) = false := by
  intro planners city t ada bob
  have order : t.assertions.Perm [city, planners, .alwaysAllow] := by decide
  obtain ⟨-, bracketed⟩ := (check_conjunction ada).2 _ _ order
  obtain ⟨chained, bracketed'⟩ := (check_conjunction bob).2 _ _ order
  refine ⟨order, (bracketed t rfl).mpr (by decide), ?_, ?_⟩
  · rw [← Bool.not_eq_true, bracketed' t rfl]
    decide
  · rw [← Bool.not_eq_true]
    exact fun passes => absurd (chained.mp passes) (by decide)

end Access

end Printworks
