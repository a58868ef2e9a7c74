import Mathlib.Data.List.Nodup
import Printworks.Dict

/-!
# Laws of finite maps

A map is known by its look-ups. The map of a list whose names are distinct finds what the list
finds, so that the map of the entries of a map is that map again.
-/

namespace Printworks

universe u v

namespace Entries

variable {α : Type u}

theorem find?_eq_none {entries : Entries α} {key : String} :
    entries.find? key = none ↔ ∀ e ∈ entries, e.1 ≠ key := by
  induction entries with
  | nil => simp [find?]
  | cons head rest ih =>
    obtain ⟨k, v⟩ := head
    by_cases eq : k = key
    · simp [find?, eq]
    · simp [find?, eq, ih]

theorem find?_append (a b : Entries α) (key : String) :
    Entries.find? (a ++ b) key = (a.find? key).or (b.find? key) := by
  induction a with
  | nil => simp [find?]
  | cons head rest ih =>
    obtain ⟨k, v⟩ := head
    by_cases eq : k = key
    · simp [find?, eq]
    · simp [find?, eq, ih]

theorem find?_of_mem {entries : Entries α} (distinct : (entries.map (·.1)).Nodup) {key : String}
    {value : α} (h : (key, value) ∈ entries) : entries.find? key = some value := by
  induction entries with
  | nil => cases h
  | cons head rest ih =>
    obtain ⟨k, v⟩ := head
    obtain ⟨new, distinct⟩ := List.nodup_cons.mp distinct
    rcases List.mem_cons.mp h with eq | member
    · cases eq
      simp [find?]
    · have ne : k ≠ key := by
        rintro rfl
        exact new (List.mem_map.mpr ⟨_, member, rfl⟩)
      rw [find?, if_neg ne]
      exact ih distinct member

theorem find?_eq_some_iff {entries : Entries α} (distinct : (entries.map (·.1)).Nodup) {key : String}
    {value : α} : entries.find? key = some value ↔ (key, value) ∈ entries :=
  ⟨mem_of_find?, find?_of_mem distinct⟩

theorem Increasing.distinct {entries : Entries α} (h : entries.Increasing) :
    (entries.map (·.1)).Nodup := by
  rw [List.Nodup, List.pairwise_map]
  refine h.imp ?_
  intro a b less eq
  rw [eq] at less
  exact String.lt_irrefl _ less

theorem Increasing.eq_of_mem_iff {a b : Entries α} (ha : a.Increasing) (hb : b.Increasing)
    (same : ∀ e, e ∈ a ↔ e ∈ b) : a = b := by
  have nodup {l : Entries α} (h : l.Increasing) : l.Nodup :=
    List.Nodup.of_map Prod.fst h.distinct
  have perm : a.Perm b := (List.perm_ext_iff_of_nodup (nodup ha) (nodup hb)).mpr same
  refine perm.eq_of_pairwise ?_ ha hb
  intro x y _ _ less more
  exact absurd (String.lt_trans less more) (String.lt_irrefl _)

end Entries

namespace Dict

variable {α : Type u} {β : Type v}

theorem mem_toList {d : Dict α} {key : String} {value : α} :
    (key, value) ∈ d.toList ↔ d.get? key = some value :=
  (Entries.find?_eq_some_iff d.increasing.distinct).symm

theorem ext_get? {a b : Dict α} (h : ∀ key, a.get? key = b.get? key) : a = b := by
  apply Dict.ext
  refine a.increasing.eq_of_mem_iff b.increasing ?_
  intro ⟨key, value⟩
  have inA : (key, value) ∈ a.entries ↔ _ := mem_toList
  have inB : (key, value) ∈ b.entries ↔ _ := mem_toList
  rw [inA, inB, h]

theorem mem_keys {d : Dict α} {key : String} : key ∈ d.keys ↔ (d.get? key).isSome := by
  rw [Option.isSome_iff_exists]
  constructor
  · intro member
    obtain ⟨⟨k, v⟩, entry, rfl⟩ := List.mem_map.mp member
    exact ⟨v, mem_toList.mp entry⟩
  · rintro ⟨v, found⟩
    exact List.mem_map.mpr ⟨_, mem_toList.mpr found, rfl⟩

theorem get?_map (d : Dict α) (f : α → β) (key : String) : (d.map f).get? key = (d.get? key).map f := by
  have found (entries : Entries α) :
      Entries.find? (entries.map (fun e => (e.1, f e.2))) key = (entries.find? key).map f := by
    induction entries with
    | nil => rfl
    | cons head rest ih =>
      obtain ⟨k, v⟩ := head
      rw [List.map_cons, Entries.find?, Entries.find?, ih]
      split <;> rfl
  exact found d.entries

theorem get?_filter (d : Dict α) (keep : String → α → Bool) (key : String) :
    (d.filter keep).get? key = (d.get? key).filter (keep key) := by
  apply Option.ext
  intro value
  rw [← mem_toList, Option.filter_eq_some_iff, ← mem_toList]
  exact List.mem_filter

theorem keys_filter (d : Dict α) (keep : String → α → Bool) :
    (d.filter keep).keys = d.keys.filter (fun key => (d.get? key).any (keep key)) := by
  change (d.entries.filter _).map (·.1) = (d.entries.map (·.1)).filter _
  rw [List.filter_map]
  congr 1
  refine List.filter_congr (fun e member => ?_)
  have found : d.get? e.1 = some e.2 := mem_toList.mp member
  simp [found]

theorem keys_nodup (d : Dict α) : d.keys.Nodup := d.increasing.distinct

theorem contains_iff_mem_keys {d : Dict α} {key : String} : d.contains key = true ↔ key ∈ d.keys :=
  mem_keys.symm

theorem get?_foldl_insert (entries : List (String × α)) (d : Dict α) (key : String)
    (distinct : (entries.map (·.1)).Nodup) :
    (entries.foldl (fun d e => d.insert e.1 e.2) d).get? key =
      (Entries.find? entries key).or (d.get? key) := by
  induction entries generalizing d with
  | nil => simp [Entries.find?]
  | cons head rest ih =>
    obtain ⟨k, v⟩ := head
    obtain ⟨new, distinct⟩ := List.nodup_cons.mp distinct
    rw [List.foldl_cons, ih _ distinct, get?_insert, Entries.find?]
    by_cases eq : k = key
    · subst eq
      have none : Entries.find? rest k = none :=
        Entries.find?_eq_none.mpr (fun e member same =>
          new (List.mem_map.mpr ⟨e, member, same⟩))
      simp [none]
    · simp [eq]

/-- Of the values for one key the last is found. -/
theorem get?_foldl_insert_reverse (entries : List (String × α)) (d : Dict α)
    (key : String) :
    (entries.foldl (fun d e => d.insert e.1 e.2) d).get? key =
      (Entries.find? entries.reverse key).or (d.get? key) := by
  induction entries generalizing d with
  | nil => simp [Entries.find?]
  | cons head rest ih =>
    rw [List.foldl_cons, ih, List.reverse_cons, Entries.find?_append, Option.or_assoc,
      get?_insert]
    by_cases eq : head.1 = key
    · simp [Entries.find?, eq]
    · simp [Entries.find?, eq]

theorem get?_ofList {entries : List (String × α)} (distinct : (entries.map (·.1)).Nodup)
    (key : String) : (ofList entries).get? key = Entries.find? entries key := by
  have found := get?_foldl_insert entries empty key distinct
  rwa [show (empty : Dict α).get? key = none from rfl, Option.or_none] at found

/-- What is made of the entries of a map one by one is found where the entry is. -/
theorem get?_filterMap (d : Dict α) (f : String → α → Option β) (key : String) :
    (ofList (d.toList.filterMap (fun e => (f e.1 e.2).map (e.1, ·)))).get? key =
      (d.get? key).bind (f key) := by
  have distinct : ((d.toList.filterMap (fun e => (f e.1 e.2).map (e.1, ·))).map (·.1)).Nodup := by
    rw [List.map_filterMap, List.Nodup, List.pairwise_filterMap]
    refine (List.pairwise_map.mp d.keys_nodup).imp ?_
    intro a b ne key first other second
    obtain ⟨e, found, rfl⟩ := Option.map_eq_some_iff.mp first
    obtain ⟨e', found', rfl⟩ := Option.map_eq_some_iff.mp second
    obtain ⟨_, -, rfl⟩ := Option.map_eq_some_iff.mp found
    obtain ⟨_, -, rfl⟩ := Option.map_eq_some_iff.mp found'
    exact ne
  apply Option.ext
  intro value
  rw [get?_ofList distinct, Option.bind_eq_some_iff, Entries.find?_eq_some_iff distinct]
  constructor
  · intro found
    obtain ⟨⟨k, v⟩, member, same⟩ := List.mem_filterMap.mp found
    obtain ⟨made, eq, same⟩ := Option.map_eq_some_iff.mp same
    cases same
    exact ⟨v, mem_toList.mp member, eq⟩
  · rintro ⟨v, found, eq⟩
    exact List.mem_filterMap.mpr ⟨(key, v), mem_toList.mpr found, by rw [eq]; rfl⟩

/-- Values that are collected by their keys are found with the key, in order, behind those that have
been there before. -/
theorem get?_collect {γ : Type} (items : List γ) (key : γ → Option String) (value : γ → α)
    (found : Dict (List α)) (name : String) :
    (items.foldl (fun found item =>
      match key item with
      | none => found
      | some k => found.insert k ((found.get? k).getD [] ++ [value item])) found).get? name =
      let more := (items.filter (fun item => key item == some name)).map value
      if more = [] then found.get? name else some ((found.get? name).getD [] ++ more) := by
  induction items generalizing found with
  | nil => rfl
  | cons item rest ih =>
    rw [List.foldl_cons, ih]
    by_cases eq : key item = some name
    · by_cases none : (rest.filter (fun item => key item == some name)).map value = []
      · simp only [none, eq, if_true, List.filter_cons, beq_self_eq_true, List.map_cons,
          get?_insert_self]
        simp
      · simp only [none, eq, if_false, if_true, List.filter_cons, beq_self_eq_true, List.map_cons,
          get?_insert_self]
        simp
    -- An item with another key, or with none, changes nothing for this one.
    · have other : (item :: rest).filter (fun item => key item == some name) =
          rest.filter (fun item => key item == some name) :=
        List.filter_cons_of_neg (by simpa using eq)
      rw [other]
      cases none : key item with
      | none => rfl
      | some k =>
        have ne : k ≠ name := by
          rintro rfl
          exact eq none
        simp only [get?_insert_ne _ _ ne]

/-- Whether one map finds all that another finds. -/
def Within (a b : Dict α) : Prop := ∀ key value, a.get? key = some value → b.get? key = some value

theorem Within.refl (d : Dict α) : d.Within d := fun _ _ found => found

theorem Within.trans {a b c : Dict α} (first : a.Within b) (second : b.Within c) : a.Within c :=
  fun key value found => second key value (first key value found)

theorem Within.insert {a b : Dict α} (h : a.Within b) {key : String} (new : a.get? key = none)
    (value : α) : a.Within (b.insert key value) := by
  intro other found here
  have ne : key ≠ other := by
    rintro rfl
    rw [new] at here
    cases here
  rw [get?_insert_ne b value ne]
  exact h other found here

@[simp] theorem ofList_toList (d : Dict α) : ofList d.toList = d :=
  ext_get? (fun key => get?_ofList d.increasing.distinct key)

theorem mem_insertNew {d : Dict α} {key : String} {value : α} {e : String × α}
    (member : e ∈ (d.insertNew key value).toList) : e = (key, value) ∨ e ∈ d.toList := by
  unfold insertNew at member
  split at member
  next => exact .inr member
  next => exact Entries.mem_insert member

/-- A name that is less than all others comes first. -/
theorem toList_insertNew_first {d : Dict α} {key : String} (first : ∀ e ∈ d.toList, key < e.1)
    (value : α) : (d.insertNew key value).toList = (key, value) :: d.toList := by
  have new : d.contains key = false := by
    rw [← Bool.not_eq_true, contains_iff_mem_keys]
    intro member
    obtain ⟨e, inside, same⟩ := List.mem_map.mp member
    have less := first e inside
    rw [same] at less
    exact String.lt_irrefl _ less
  obtain ⟨entries, increasing⟩ := d
  rw [insertNew, new, if_neg (by decide)]
  cases entries with
  | nil => rfl
  | cons e rest => exact if_pos (first e List.mem_cons_self)

end Dict

end Printworks
