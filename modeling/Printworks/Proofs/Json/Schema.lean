import Printworks.Proofs.Access
import Printworks.Proofs.Value.Encoding

/-!
# Reading what records write

A record whose parts have different names is read by these names with exactly the parts that are there.
Lists, maps and optional parts are read back if what they are made of is.
-/

namespace Printworks

namespace Json

universe u
variable {α : Type u}

/-! ### Records -/

theorem part?_eq {entries : List (String × Json)} {name : String} {part : Option (String × Json)}
    (only : entries.filter (fun e => e.1 == name) = part.toList) :
    part? entries name = some (part.map Prod.snd) := by
  cases part with
  | none => simp only [part?, only, Option.toList_none, Option.map_none]
  | some e => simp only [part?, only, Option.toList_some, Option.map_some]

/-- Each part of a record is found by its name among all parts, in whatever comes before them. -/
theorem mapM_part? {names : List String} {parts : List (Option (String × Json))}
    (nodup : names.Nodup) (named : AreNamed names parts) (before : List (String × Json))
    (apart : ∀ e ∈ before, e.1 ∉ names) :
    names.mapM (part? (before ++ parts.filterMap id)) = some (parts.map (Option.map Prod.snd)) := by
  induction named generalizing before with
  | nil => rfl
  | @cons name part names parts head rest ih =>
    obtain ⟨fresh, nodup⟩ := List.nodup_cons.mp nodup
    have split : before ++ (part :: parts).filterMap id =
        (before ++ part.toList) ++ parts.filterMap id := by
      cases part <;> simp
    have earlier : before.filter (fun e => e.1 == name) = [] := by
      simp only [List.filter_eq_nil_iff, beq_iff_eq]
      rintro e member rfl
      exact apart e member List.mem_cons_self
    have here : part.toList.filter (fun e => e.1 == name) = part.toList := by
      simp only [List.filter_eq_self, beq_iff_eq, Option.mem_toList]
      exact fun e found => head e found
    have later : (parts.filterMap id).filter (fun e => e.1 == name) = [] := by
      simp only [List.filter_eq_nil_iff, beq_iff_eq]
      rintro e member rfl
      exact fresh (AreNamed.mem rest member)
    have own : part? (before ++ (part :: parts).filterMap id) name = some (part.map Prod.snd) := by
      apply part?_eq
      rw [split, List.filter_append, List.filter_append, earlier, here, later, List.nil_append,
        List.append_nil]
    have others := ih nodup (before ++ part.toList) (by
      intro e member
      rcases List.mem_append.mp member with member | member
      · exact fun other => apart e member (List.mem_cons_of_mem _ other)
      · rw [head e (Option.mem_toList.mp member)]
        exact fresh)
    rw [List.mapM_cons, own, split, others]
    rfl

/-- A record is read with the parts that it has been written with. -/
theorem fields?_record {names : List String} {parts : List (Option (String × Json))}
    (nodup : names.Nodup) (named : AreNamed names parts) :
    (record parts).fields? names = some ⟨true, parts.map (Option.map Prod.snd)⟩ := by
  have found := mapM_part? nodup named [] nofun
  rw [List.nil_append] at found
  simp only [record, fields?, found, Option.map_some]

theorem areNamed_list (name : String) (items : List String) {names : List String}
    {parts : List (Option (String × Json))} (rest : AreNamed names parts) :
    AreNamed (name :: names) ( Json.listEntry? name items :: parts) := by
  unfold Json.listEntry?
  split
  · exact rest.none name
  · exact rest.some name _

/-! ### Parts -/

theorem entry?_map_snd (name : String) (part : Option Json) :
    ( entry? name part).map Prod.snd = part := by
  cases part <;> rfl

/-- A list that is left out if it is empty is the default then. -/
theorem orDefault_list (name : String) {f : Fields} {i : Nat} {items : List String}
    (there : f.part i = ( listEntry? name items).map Prod.snd) :
    f.orDefault i [] (list? text?) = some items := by
  rw [Fields.orDefault, there, listEntry?]
  cases items with
  | nil => rfl
  | cons item rest => exact list?_texts (item :: rest)

theorem optional_map (write : α → Json) {f : Fields} {i : Nat} {read : Json → Option α}
    {part : Option α} (there : f.part i = part.map write)
    (reads : ∀ a, part = some a → read (write a) = some a ∧ write a ≠ .null) :
    f.optional i read = some part := by
  rw [Fields.optional, Fields.orDefault, there]
  cases part with
  | none => rfl
  | some a =>
    obtain ⟨own, some_⟩ := reads a rfl
    simp only [Option.map_some]
    unfold optional?
    split
    next null => exact absurd null some_
    next => rw [own, Option.map_some]

theorem optional_text {f : Fields} {i : Nat} {part : Option String}
    (there : f.part i = part.map text) : f.optional i text? = some part :=
  optional_map text there (fun _ _ => ⟨rfl, Json.noConfusion⟩)

/-! ### Lists and maps -/

theorem list?_map {read : Json → Option α} {write : α → Json} {items : List α}
    (reads : ∀ a ∈ items, read (write a) = some a) :
    list? read (.array (items.map write)) = some items := by
  simp only [list?]
  induction items with
  | nil => rfl
  | cons a rest ih =>
    have own := reads a List.mem_cons_self
    have others := ih (fun b member => reads b (List.mem_cons_of_mem _ member))
    rw [List.map_cons, List.mapM_cons, own, others]
    rfl

theorem map?_ofNames (d : Dict String) : map? text? (ofNames d) = some d := by
  let read (e : String × Json) : Option (String × String) := (text? e.2).map (e.1, ·)
  have entries (l : List (String × String)) :
      (l.map (fun e => (e.1, text e.2))).mapM read = some l := by
    induction l with
    | nil => rfl
    | cons e rest ih =>
      rw [List.map_cons, List.mapM_cons, ih]
      rfl
  change ((d.toList.map (fun e => (e.1, text e.2))).mapM read).map Dict.ofList = some d
  rw [entries, Option.map_some, Dict.ofList_toList]

/-! ### What has been read -/

theorem exists_of_list? {read : Json → Option α} {j : Json} {items : List α}
    (found : list? read j = some items) {a : α} (member : a ∈ items) : ∃ item, read item = some a := by
  unfold list? at found
  split at found
  next documents =>
    induction documents generalizing items with
    | nil =>
      cases found
      cases member
    | cons first rest ih =>
      simp only [List.mapM_cons, Option.bind_eq_bind, Option.bind_eq_some_iff] at found
      obtain ⟨b, own, others, reads, eq⟩ := found
      cases eq
      rcases List.mem_cons.mp member with rfl | member
      · exact ⟨first, own⟩
      · exact ih member reads
  next => cases found

theorem exists_of_orDefault {f : Fields} {i : Nat} {read : Json → Option α} {items : List α}
    (found : f.orDefault i [] (list? read) = some items) {a : α} (member : a ∈ items) :
    ∃ item, read item = some a := by
  unfold Fields.orDefault at found
  split at found
  next =>
    cases found
    cases member
  next => exact exists_of_list? found member

theorem exists_of_optional {f : Fields} {i : Nat} {read : Json → Option α} {a : α}
    (found : f.optional i read = some (some a)) : ∃ j, j ≠ .null ∧ read j = some a := by
  unfold Fields.optional Fields.orDefault optional? at found
  split at found
  next => cases found
  next j _ =>
    split at found
    next => cases found
    next some_ =>
      obtain ⟨b, own, eq⟩ := Option.map_eq_some_iff.mp found
      cases eq
      exact ⟨j, some_, own⟩

end Json

end Printworks
