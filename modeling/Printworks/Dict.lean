/-!
# Finite maps

A `Dict` is a finite map with text keys. It lists its entries in strictly increasing key order, so
that two maps with the same look-ups are equal and every traversal has one order. The order on keys
is that of their code points, which is also the order of their UTF-8 bytes.
-/

namespace Printworks

universe u v

abbrev Entries (α : Type u) := List (String × α)

namespace Entries

variable {α : Type u} {β : Type v}

/-- The value of the first entry of a name. -/
def find? (entries : Entries α) (key : String) : Option α :=
  match entries with
  | [] => none
  | (k, v) :: rest => if k = key then some v else find? rest key

/-- Put a value at its place in a list of increasing keys, replacing the value of an equal key. -/
def insert (entries : Entries α) (key : String) (value : α) : Entries α :=
  match entries with
  | [] => [(key, value)]
  | (k, v) :: rest =>
    if key < k then (key, value) :: (k, v) :: rest
    else if key = k then (key, value) :: rest
    else (k, v) :: insert rest key value

def Increasing (entries : Entries α) : Prop :=
  entries.Pairwise (fun a b => a.1 < b.1)

theorem mem_insert {entries : Entries α} {key : String} {value : α} {e : String × α}
    (h : e ∈ entries.insert key value) : e = (key, value) ∨ e ∈ entries := by
  induction entries with
  | nil => simpa [insert] using h
  | cons head rest ih =>
    obtain ⟨k, v⟩ := head
    simp only [insert] at h
    split at h
    · simpa using h
    · split at h
      · rcases List.mem_cons.mp h with h | h
        · exact .inl h
        · exact .inr (List.mem_cons_of_mem _ h)
      · rcases List.mem_cons.mp h with h | h
        · exact .inr (h ▸ List.mem_cons_self)
        · exact (ih h).imp id (List.mem_cons_of_mem _)

theorem Increasing.insert {entries : Entries α} (h : entries.Increasing) (key : String)
    (value : α) : (entries.insert key value).Increasing := by
  induction entries with
  | nil => simp [Entries.insert, Increasing]
  | cons head rest ih =>
    obtain ⟨k, v⟩ := head
    have tail : Increasing rest := (List.pairwise_cons.mp h).2
    have first : ∀ e ∈ rest, k < e.1 := (List.pairwise_cons.mp h).1
    simp only [Entries.insert]
    split
    next lt =>
      refine List.pairwise_cons.mpr ⟨fun e he => ?_, h⟩
      rcases List.mem_cons.mp he with rfl | he
      · exact lt
      · exact String.lt_trans lt (first e he)
    next notLt =>
      split
      next eq =>
        subst eq
        exact List.pairwise_cons.mpr ⟨first, tail⟩
      next ne =>
        refine List.pairwise_cons.mpr ⟨fun e he => ?_, ih tail⟩
        rcases mem_insert he with rfl | he
        · have : k < key := by grind
          exact this
        · exact first e he

end Entries

/-- A finite map from names to values, listed in strictly increasing order of the names. -/
structure Dict (α : Type u) where
  entries : Entries α
  increasing : entries.Increasing

namespace Dict

variable {α : Type u} {β : Type v}

@[ext] theorem ext {a b : Dict α} (h : a.entries = b.entries) : a = b := by
  cases a; cases b; cases h; rfl

instance [DecidableEq α] : DecidableEq (Dict α) := fun a b =>
  decidable_of_iff (a.entries = b.entries) ⟨ext, fun h => h ▸ rfl⟩

def empty : Dict α := ⟨[], List.Pairwise.nil⟩

instance : EmptyCollection (Dict α) := ⟨empty⟩
instance : Inhabited (Dict α) := ⟨empty⟩

def get? (d : Dict α) (key : String) : Option α := d.entries.find? key

def contains (d : Dict α) (key : String) : Bool := (d.get? key).isSome

def insert (d : Dict α) (key : String) (value : α) : Dict α :=
  ⟨d.entries.insert key value, d.increasing.insert key value⟩

/-- The map of a list of entries, in which the last entry of a name counts. -/
def ofList (entries : List (String × α)) : Dict α :=
  entries.foldl (fun d e => d.insert e.1 e.2) empty

def toList (d : Dict α) : List (String × α) := d.entries

def keys (d : Dict α) : List String := d.entries.map (·.1)

def values (d : Dict α) : List α := d.entries.map (·.2)

def size (d : Dict α) : Nat := d.entries.length

def isEmpty (d : Dict α) : Bool := d.entries.isEmpty

def filter (d : Dict α) (keep : String → α → Bool) : Dict α :=
  ⟨d.entries.filter (fun e => keep e.1 e.2), d.increasing.filter _⟩

def map (d : Dict α) (f : α → β) : Dict β :=
  ⟨d.entries.map (fun e => (e.1, f e.2)), by
    have := d.increasing
    simpa [Entries.Increasing, List.pairwise_map] using this⟩

/-- Give a name a value unless it has one. -/
def insertNew (d : Dict α) (key : String) (value : α) : Dict α :=
  if d.contains key then d else d.insert key value

def erase (d : Dict α) (key : String) : Dict α :=
  d.filter (fun k _ => !(k == key))

end Dict

namespace Entries

variable {α : Type u}

theorem find?_insert (entries : Entries α) (h : entries.Increasing) (key other : String)
    (value : α) :
    (entries.insert key value).find? other =
      if key = other then some value else entries.find? other := by
  induction entries with
  | nil => simp [insert, find?]
  | cons head rest ih =>
    obtain ⟨k, v⟩ := head
    have tail : Increasing rest := (List.pairwise_cons.mp h).2
    simp only [insert]
    split
    next lt =>
      simp only [find?]
    next notLt =>
      split
      next eq => subst eq; simp only [find?]; split <;> rfl
      next ne =>
        simp only [find?, ih tail]
        by_cases hk : k = other
        · subst hk; simp [ne]
        · simp [hk]

theorem mem_of_find? {entries : Entries α} {key : String} {value : α}
    (h : entries.find? key = some value) : (key, value) ∈ entries := by
  induction entries with
  | nil => simp [find?] at h
  | cons head rest ih =>
    obtain ⟨k, v⟩ := head
    simp only [find?] at h
    split at h
    next eq => subst eq; cases h; exact List.mem_cons_self
    next => exact List.mem_cons_of_mem _ (ih h)

end Entries

namespace Dict

variable {α : Type u}

@[simp] theorem get?_empty (key : String) : (∅ : Dict α).get? key = none := rfl

theorem get?_insert (d : Dict α) (key other : String) (value : α) :
    (d.insert key value).get? other = if key = other then some value else d.get? other :=
  Entries.find?_insert _ d.increasing key other value

theorem get?_insert_self (d : Dict α) (key : String) (value : α) :
    (d.insert key value).get? key = some value := by
  simp [get?_insert]

theorem get?_insert_ne (d : Dict α) {key other : String} (value : α) (h : key ≠ other) :
    (d.insert key value).get? other = d.get? other := by
  simp [get?_insert, h]

end Dict

end Printworks
