import Printworks.Proofs.Json.Printing
import Printworks.Value.Tagged

/-!
# What the tagged document of a value keeps

A tagged document tells its value, except for numbers that are not finite: all of them are written as
null. So a value without such numbers is known from its document, and of any value the document tells
the type.
-/

namespace Printworks

/-! ### Records -/

namespace Json

/-- Whether the entries of a record that are there have the names of their places. -/
def AreNamed (names : List String) (parts : List (Option (String × Json))) : Prop :=
  List.Forall₂ (fun name part => ∀ entry, part = some entry → entry.1 = name) names parts

theorem AreNamed.none (name : String) {names : List String}
    {parts : List (Option (String × Json))} (rest : AreNamed names parts) :
    AreNamed (name :: names) (.none :: parts) := by
  apply List.Forall₂.cons _ rest
  intro entry found
  cases found

theorem AreNamed.some (name : String) (part : Json) {names : List String}
    {parts : List (Option (String × Json))} (rest : AreNamed names parts) :
    AreNamed (name :: names) (.some (name, part) :: parts) := by
  apply List.Forall₂.cons _ rest
  intro entry found
  cases found
  rfl

theorem AreNamed.mem {names : List String} {parts : List (Option (String × Json))}
    (named : AreNamed names parts) {entry : String × Json} (member : entry ∈ parts.filterMap id) :
    entry.1 ∈ names := by
  induction named with
  | nil => cases member
  | @cons name part names parts head _ ih =>
    cases part with
    | none => exact List.mem_cons_of_mem _ (ih member)
    | some first =>
      rcases List.mem_cons.mp member with rfl | member
      · rw [head _ rfl]
        exact List.mem_cons_self
      · exact List.mem_cons_of_mem _ (ih member)

/-- A record tells which of its entries are there, since no two places have one name. -/
theorem record_inj {names : List String} (nodup : names.Nodup)
    {parts parts' : List (Option (String × Json))} (named : AreNamed names parts)
    (named' : AreNamed names parts') (same : record parts = record parts') : parts = parts' := by
  simp only [record, object.injEq] at same
  induction named generalizing parts' with
  | nil =>
    cases named'
    rfl
  | @cons name part names parts head rest ih =>
    obtain ⟨other, nodup⟩ := List.nodup_cons.mp nodup
    cases named' with
    | @cons _ part' _ parts' head' rest' =>
      -- An entry that is there on one side only would have the name of a later place.
      cases part with
      | none =>
        cases part' with
        | none => rw [ih nodup rest' same]
        | some first =>
          have late : first ∈ parts.filterMap id := by
            rw [show parts.filterMap id = first :: parts'.filterMap id from same]
            exact List.mem_cons_self
          exact absurd (head' first rfl ▸ AreNamed.mem rest late) other
      | some first =>
        cases part' with
        | none =>
          have late : first ∈ parts'.filterMap id := by
            rw [show parts'.filterMap id = first :: parts.filterMap id from same.symm]
            exact List.mem_cons_self
          exact absurd (head first rfl ▸ AreNamed.mem rest' late) other
        | some first' =>
          obtain ⟨heads, tails⟩ := List.cons.inj same
          rw [heads, ih nodup rest' tails]

theorem entry?_text_inj {name : String} {part part' : Option String}
    (same : entry? name (part.map text) = entry? name (part'.map text)) : part = part' := by
  cases part with
  | none =>
    cases part' with
    | none => rfl
    | some _ => cases same
  | some _ =>
    cases part' with
    | none => cases same
    | some _ =>
      cases same
      rfl

theorem areNamed_optional (name : String) (part : Option Json) {names : List String}
    {parts : List (Option (String × Json))} (rest : AreNamed names parts) :
    AreNamed (name :: names) ( entry? name part :: parts) := by
  cases part with
  | none => exact rest.none name
  | some part => exact rest.some name part

end Json

/-! ### Artifacts -/

theorem Artifact.encode_inj {a b : Artifact} (same : a.encode = b.encode) : a = b := by
  have named (a : Artifact) : Json.AreNamed ["location", "content_type"]
      [some ("location", .text a.location),
        Json.entry? "content_type" (a.contentType.map .text)] :=
    .some _ _ (Json.areNamed_optional _ _ .nil)
  have parts := Json.record_inj (by decide) (named a) (named b) same
  simp only [List.cons.injEq, Option.some.injEq, Prod.mk.injEq, Json.text.injEq, true_and,
    and_true] at parts
  obtain ⟨location, contentType⟩ := parts
  cases a
  cases b
  cases location
  cases Json.entry?_text_inj contentType
  rfl

theorem Artifact.isFinite_encode (a : Artifact) : a.encode.IsFinite := by
  obtain ⟨location, contentType⟩ := a
  cases contentType with
  | none => exact ⟨trivial, trivial⟩
  | some _ => exact ⟨trivial, trivial, trivial⟩

namespace Value

/-! ### Tags -/

/-- The tag in the document of a value. -/
def tag (v : Value) : String := if v.isNull then "null" else v.type.name

theorem encode_eq_object (v : Value) : ∃ rest, v.encode = .object (("type", .text v.tag) :: rest) := by
  cases v <;> exact ⟨_, rfl⟩

theorem tag_eq_of_encode {v w : Value} (same : v.encode = w.encode) : v.tag = w.tag := by
  obtain ⟨rest, left⟩ := v.encode_eq_object
  obtain ⟨rest', right⟩ := w.encode_eq_object
  rw [left, right] at same
  simp only [Json.object.injEq, List.cons.injEq, Prod.mk.injEq, Json.text.injEq] at same
  exact same.1.2

/-- The tag of a value tells its type. -/
theorem type_eq_of_encode {v w : Value} (same : v.encode = w.encode) : v.type = w.type := by
  have read (v : Value) : (ValueType.ofName? v.tag).getD .any = v.type := by cases v <;> rfl
  rw [← read v, ← read w, tag_eq_of_encode same]

/-! ### Documents -/

mutual

/-- Whether all numbers in a value are finite. -/
def IsFinite : Value → Prop
  | number x => x.isFinite = true
  | list items => AreFinite items
  | map entries => AreFiniteEntries entries
  | _ => True

def AreFinite : List Value → Prop
  | [] => True
  | item :: rest => item.IsFinite ∧ AreFinite rest

def AreFiniteEntries : List (String × Value) → Prop
  | [] => True
  | (_, item) :: rest => item.IsFinite ∧ AreFiniteEntries rest

end

mutual

/-- All numbers of a tagged document have digits, whatever the value is. -/
theorem isFinite_encode (v : Value) : v.encode.IsFinite := by
  match v with
  | null => exact ⟨trivial, trivial⟩
  | bool _ => exact ⟨trivial, trivial, trivial⟩
  | integer _ => exact ⟨trivial, trivial, trivial⟩
  | number x => exact ⟨trivial, Json.isFinite_double x, trivial⟩
  | string _ => exact ⟨trivial, trivial, trivial⟩
  | list items => exact ⟨trivial, isFinite_encodeItems items, trivial⟩
  | map entries => exact ⟨trivial, isFinite_encodeEntries entries, trivial⟩
  | artifact ref => exact ⟨trivial, ref.isFinite_encode, trivial⟩

theorem isFinite_encodeItems (items : List Value) : Json.AreFinite (encodeItems items) := by
  match items with
  | [] => trivial
  | item :: rest => exact ⟨isFinite_encode item, isFinite_encodeItems rest⟩

theorem isFinite_encodeEntries (entries : List (String × Value)) :
    Json.AreFiniteEntries (encodeEntries entries) := by
  match entries with
  | [] => trivial
  | (_, item) :: rest => exact ⟨isFinite_encode item, isFinite_encodeEntries rest⟩

end

theorem taggedObject_inj {tag tag' : String} {content content' : Json}
    (same : taggedObject tag content = taggedObject tag' content') : content = content' := by
  simp only [taggedObject, Json.object.injEq, List.cons.injEq, Prod.mk.injEq] at same
  exact same.2.1.2

/-- A finite number is written with its digits, and no other one is written like it. -/
theorem double_inj {x y : Double} (finite : x.isFinite = true)
    (same : Json.double x = Json.double y) : x = y := by
  rw [Json.double, if_pos finite, Json.double] at same
  split at same
  next =>
    cases same
    rfl
  next => cases same

mutual

/-- A value whose numbers are all finite is the only one with its document. -/
theorem encode_inj (v w : Value) (finite : v.IsFinite) (same : v.encode = w.encode) : v = w := by
  have types := type_eq_of_encode same
  match v with
  | null =>
    cases w with
    | null => rfl
    | _ => cases types
  | bool _ =>
    cases w with
    | bool _ =>
      cases same
      rfl
    | _ => cases types
  | integer m =>
    cases w with
    | integer n =>
      have numbers := taggedObject_inj same
      simp only [Json.int, Json.number.injEq, JsonNumber.int.injEq] at numbers
      rw [Int64.toInt_inj.mp numbers]
    | _ => cases types
  | number x =>
    cases w with
    | number y => rw [double_inj finite (taggedObject_inj same)]
    | _ => cases types
  | string _ =>
    cases w with
    | string _ =>
      cases same
      rfl
    | _ => cases types
  | list items =>
    cases w with
    | list items' =>
      have contents := taggedObject_inj same
      rw [Json.array.injEq] at contents
      rw [encodeItems_inj items items' finite contents]
    | _ => cases types
  | map entries =>
    cases w with
    | map entries' =>
      have contents := taggedObject_inj same
      rw [Json.object.injEq] at contents
      rw [encodeEntries_inj entries entries' finite contents]
    | _ => cases types
  | artifact ref =>
    cases w with
    | artifact ref' => rw [Artifact.encode_inj (taggedObject_inj same)]
    | _ => cases types

theorem encodeItems_inj (items items' : List Value) (finite : AreFinite items)
    (same : encodeItems items = encodeItems items') : items = items' := by
  match items, items' with
  | [], [] => rfl
  | item :: rest, item' :: rest' =>
    rw [encodeItems, encodeItems, List.cons.injEq] at same
    rw [encode_inj item item' finite.1 same.1, encodeItems_inj rest rest' finite.2 same.2]

theorem encodeEntries_inj (entries entries' : List (String × Value))
    (finite : AreFiniteEntries entries) (same : encodeEntries entries = encodeEntries entries') :
    entries = entries' := by
  match entries, entries' with
  | [], [] => rfl
  | (key, item) :: rest, (key', item') :: rest' =>
    rw [encodeEntries, encodeEntries, List.cons.injEq, Prod.mk.injEq] at same
    rw [same.1.1, encode_inj item item' finite.1 same.1.2,
      encodeEntries_inj rest rest' finite.2 same.2]

end

end Value

end Printworks
