import Printworks.Proofs.Context

/-!
# What calls on a context keep

Single values and batches are stored in one map by three calls. Over every history of them a value
that is there stays there, and a call that is refused changes nothing.

Within a batch this is not so. Names are compared with the context as it was before the batch, so a
value that may not give way replaces one that the same batch has stored under its name before. A
batch loses nothing if and only if this does not happen.
-/

namespace Printworks

namespace Context

/-! ### One value -/

theorem not_contains_iff {c : Context} {name : String} :
    c.contains name = false ↔ c.values.get? name = none := by
  simp [contains, Dict.contains]

theorem get_eq_ok {c : Context} {name : String} {value : Value} :
    c.get name = .ok value ↔ c.values.get? name = some value := by
  unfold get
  cases c.values.get? name <;> simp

/-! ### A batch of values -/

theorem storeAll_cons (c : Context) (w : Write) (rest : List Write) :
    (c.storeAll (w :: rest)).1 = (c.store w).1 :: ((c.store w).2.storeAll rest).1 := rfl

theorem length_storeAll (c : Context) (writes : List Write) :
    (c.storeAll writes).1.length = writes.length := by
  induction writes generalizing c with
  | nil => rfl
  | cons w rest ih => exact congrArg (· + 1) (ih (c.store w).2)

/-- The values of a batch are put into the map one after another. -/
theorem storeAll_eq (c : Context) (writes : List Write) :
    (c.storeAll writes).2.values =
      ((c.storeAll writes).1.zip (writes.map (·.value))).foldl (fun d e => d.insert e.1 e.2)
        c.values := by
  induction writes generalizing c with
  | nil => rfl
  | cons w rest ih =>
    have first := store_eq c w
    have others := ih (c.store w).2
    rw [first] at others
    exact others

/-- A commit fails exactly if a name is taken that may not give way. -/
theorem commit_fails_iff {c : Context} {writes : List Write} :
    (∃ refusal, c.commit writes = .error refusal) ↔
      ∃ w ∈ writes, w.internal = false ∧ c.contains w.name = true := by
  have free : c.conflict? writes = none ↔
      ¬ ∃ w ∈ writes, w.internal = false ∧ c.contains w.name = true := by
    rw [conflict?_eq_none]
    simp only [← not_contains_iff, not_exists, not_and, Bool.not_eq_true]
  rw [← not_iff_not, ← free, commit]
  cases c.conflict? writes <;> simp

/-- A commit that succeeds puts its values into the map under the names that it gives. -/
theorem values_of_commit {c after : Context} {writes : List Write} {names : List String}
    (h : c.commit writes = .ok (names, after)) :
    names.length = writes.length ∧
      after.values = (names.zip (writes.map (·.value))).foldl (fun d e => d.insert e.1 e.2)
        c.values := by
  unfold commit at h
  split at h
  next => cases h
  next =>
    have stored : c.storeAll writes = (names, after) := Except.ok.inj h
    have values := storeAll_eq c writes
    have length := length_storeAll c writes
    rw [stored] at values length
    exact ⟨length, values⟩

theorem storeAll_plain (c : Context) {writes : List Write} {i : Nat} {w : Write}
    (place : writes[i]? = some w) (plain : w.internal = false) :
    (c.storeAll writes).1[i]? = some w.name := by
  induction writes generalizing c i with
  | nil => simp at place
  | cons head rest ih =>
    cases i with
    | zero =>
      obtain rfl : head = w := by simpa using place
      exact congrArg some (store_plain c plain)
    | succ i => exact ih (c.store head).2 (by simpa using place)

/-- The names of a batch are free in what has been there before it, if those that may not give way
are. -/
theorem storeAll_new {base : Dict Value} {c : Context} (within : base.Within c.values)
    {writes : List Write} (free : ∀ w ∈ writes, w.internal = false → base.get? w.name = none)
    {name : String} (h : name ∈ (c.storeAll writes).1) : base.get? name = none := by
  induction writes generalizing c with
  | nil => cases h
  | cons w rest ih =>
    have freeRest (x : Write) (member : x ∈ rest) := free x (List.mem_cons_of_mem _ member)
    rw [storeAll_cons] at h
    rcases List.mem_cons.mp h with eq | later
    · rw [eq]
      exact store_new within w (free w List.mem_cons_self)
    · exact ih (store_within within w (free w List.mem_cons_self)) freeRest later

/-- Whether a value that may not give way comes after one that is stored under its name. -/
def Replaces (stored : List String) (writes : List Write) : Prop :=
  ∃ (i j : Nat) (w : Write), i < j ∧ writes[j]? = some w ∧ w.internal = false ∧ stored[i]? = some w.name

/-- A name that is in use before a batch is used by it for values that may not give way only. -/
theorem replaces_of_mem {c : Context} {writes : List Write} {name : String}
    (found : (c.values.get? name).isSome) (h : name ∈ (c.storeAll writes).1) :
    ∃ (j : Nat) (w : Write), writes[j]? = some w ∧ w.internal = false ∧ w.name = name := by
  induction writes generalizing c with
  | nil => cases h
  | cons w rest ih =>
    rw [storeAll_cons] at h
    rcases List.mem_cons.mp h with eq | later
    · cases kind : w.internal with
      | false => exact ⟨0, w, rfl, kind, by rw [eq, store_plain c kind]⟩
      | true =>
        rw [eq, store_internal c kind] at found
        cases found
    · have kept : ((c.store w).2.values.get? name).isSome := by
        rw [store_eq, Dict.get?_insert]
        split
        next => rfl
        next => exact found
      obtain ⟨j, x, place, plain, named⟩ := ih kept later
      exact ⟨j + 1, x, place, plain, named⟩

/-- The names of a batch are distinct unless a value of it replaces another. -/
theorem nodup_storeAll_iff (c : Context) (writes : List Write) :
    (c.storeAll writes).1.Nodup ↔ ¬ Replaces (c.storeAll writes).1 writes := by
  constructor
  · rintro distinct ⟨i, j, w, before, place, plain, same⟩
    have named := storeAll_plain c place plain
    have bound : i < (c.storeAll writes).1.length := (List.getElem?_eq_some_iff.mp same).1
    have eq : i = j := (List.getElem?_inj bound distinct).mp (same.trans named.symm)
    omega
  · intro apart
    induction writes generalizing c with
    | nil => exact List.nodup_nil
    | cons w rest ih =>
      refine List.nodup_cons.mpr ⟨?_, ih (c.store w).2 ?_⟩
      · intro later
        have found : ((c.store w).2.values.get? (c.store w).1).isSome := by
          rw [store_eq, Dict.get?_insert_self]
          rfl
        obtain ⟨j, x, place, plain, named⟩ := replaces_of_mem found later
        exact apart ⟨0, j + 1, x, by omega, place, plain, congrArg some named.symm⟩
      · rintro ⟨i, j, x, before, place, plain, same⟩
        exact apart ⟨i + 1, j + 1, x, by omega, place, plain, same⟩

/-- A batch that is stored has one name for each of its values, in order, all of them new. Each name
finds the last value stored under it and all other names find what they have found before. If no
value that may not give way comes after one stored under its name, and only then, the names are
distinct, and each value is found under its own. -/
theorem commit_stores {c after : Context} {writes : List Write} {stored : List String}
    (h : c.commit writes = .ok (stored, after)) :
    stored.length = writes.length ∧
      (∀ name ∈ stored, c.values.get? name = none) ∧
      (∀ (i : Nat) (w : Write), writes[i]? = some w → w.internal = false → stored[i]? = some w.name) ∧
      (∀ name, after.values.get? name =
        (Entries.find? (stored.zip (writes.map (·.value))).reverse name).or (c.values.get? name)) ∧
      (stored.Nodup ↔ ¬ Replaces stored writes) ∧
      (stored.Nodup → ∀ name, after.values.get? name =
        (Entries.find? (stored.zip (writes.map (·.value))) name).or (c.values.get? name)) := by
  unfold commit at h
  split at h
  next => cases h
  next free =>
    obtain ⟨rfl, rfl⟩ := Prod.mk.inj (Except.ok.inj h)
    refine ⟨length_storeAll c writes, ?_, ?_, ?_, nodup_storeAll_iff c writes, ?_⟩
    · exact fun name => storeAll_new (Dict.Within.refl _) (conflict?_eq_none.mp free)
    · exact fun i w => storeAll_plain c
    · intro name
      rw [storeAll_eq, Dict.get?_foldl_insert_reverse]
    · intro distinct name
      have names : ((c.storeAll writes).1.zip (writes.map (·.value))).map (·.1) =
          (c.storeAll writes).1 :=
        List.map_fst_zip (by simp [length_storeAll])
      rw [storeAll_eq]
      exact Dict.get?_foldl_insert _ _ _ (by rwa [names])

/-- Three values of which two give way: to a value from before, and to one of the same batch. -/
theorem commit_stores_three :
    let c : Context := ⟨.ofList [("timing", .integer 1)], .numbered⟩
    let writes : List Write := [⟨"map", .integer 2, false⟩, ⟨"timing", .integer 3, true⟩,
      ⟨"map", .integer 4, true⟩]
    (c.commit writes).map (·.1) = .ok ["map", "timing_#1", "map_#1"] ∧
      ¬ Replaces ["map", "timing_#1", "map_#1"] writes := by
  intro c writes
  have done : c.commit writes = .ok (["map", "timing_#1", "map_#1"], (c.storeAll writes).2) := by
    rw [commit, conflict?_eq_none.mpr (by decide +kernel)]
    exact congrArg Except.ok (Prod.ext (by decide +kernel) rfl)
  exact ⟨by rw [done]; rfl, (commit_stores done).2.2.2.2.1.mp (by decide)⟩

/-- Two values that may not give way have one name: both count as stored, and the first is lost. -/
theorem commit_loses_first :
    let c : Context := ⟨∅, .numbered⟩
    let writes : List Write := [⟨"a", .integer 1, false⟩, ⟨"a", .integer 2, false⟩]
    (c.commit writes).map (fun done => (done.1, done.2.get "a")) =
        .ok (["a", "a"], .ok (.integer 2)) ∧ ¬ ["a", "a"].Nodup := by
  intro c writes
  have free : c.conflict? writes = none := by decide +kernel
  have all : ((c.storeAll writes).1, (c.storeAll writes).2.get "a") =
      (["a", "a"], .ok (.integer 2)) := by
    decide +kernel
  rw [commit, free]
  exact ⟨congrArg Except.ok all, by decide⟩

/-! ### A history of calls -/

inductive Call where
  | put (name : String) (value : Value)
  | putInternal (name : String) (value : Value)
  | commit (writes : List Write)
  deriving DecidableEq, Inhabited

inductive Answer where
  | done
  | stored (name : String)
  | allStored (names : List String)
  | refused (error : ContextError)
  deriving DecidableEq, Inhabited

/-- The values of a call that may not give way. -/
def Call.plain (call : Call) : List Write :=
  match call with
  | put name value => [⟨name, value, false⟩]
  | putInternal .. => []
  | commit writes => writes.filter (fun w => !w.internal)

def perform (c : Context) (call : Call) : Answer × Context :=
  match call with
  | .put name value =>
    match c.put name value with
    | .ok after => (.done, after)
    | .error refusal => (.refused refusal.error, refusal.context)
  | .putInternal name value =>
    let (stored, after) := c.putInternal name value
    (.stored stored, after)
  | .commit writes =>
    match c.commit writes with
    | .ok (names, after) => (.allStored names, after)
    | .error refusal => (.refused refusal.error, refusal.context)

def run (c : Context) (calls : List Call) : Context :=
  calls.foldl (fun c call => (c.perform call).2) c

theorem run_append (c : Context) (earlier later : List Call) :
    c.run (earlier ++ later) = (c.run earlier).run later := List.foldl_append

theorem perform_within (c : Context) (call : Call) : c.values.Within (c.perform call).2.values := by
  have kept := Dict.Within.refl c.values
  cases call with
  | put name value =>
    simp only [perform]
    split
    next after stored =>
      rw [put] at stored
      split at stored
      next => cases stored
      next free =>
        cases stored
        exact kept.insert (not_contains_iff.mp (by simpa using free)) value
    next refusal refused => rwa [(put_refused refused).1]
  | putInternal name value => exact kept.insert (putInternal_new c name value) value
  | commit writes =>
    simp only [perform]
    split
    next names after stored => exact commit_within stored
    next refusal refused => rwa [(commit_refused refused).1]

theorem run_within (c : Context) (calls : List Call) : c.values.Within (c.run calls).values := by
  induction calls generalizing c with
  | nil => exact Dict.Within.refl _
  | cons call rest ih => exact (perform_within c call).trans (ih (c.perform call).2)

/-- A refusal is about a value of the call that may not give way, and whose name is taken. -/
theorem perform_refused {c : Context} {call : Call} {e : ContextError}
    (h : (c.perform call).1 = .refused e) :
    (c.perform call).2 = c ∧ ∃ w ∈ call.plain, e = .alreadyWritten w.name ∧
      c.contains w.name = true := by
  cases call with
  | put name value =>
    cases put : c.put name value with
    | ok after => simp [perform, put] at h
    | error refusal =>
      simp only [perform, put] at h ⊢
      cases h
      obtain ⟨kept, taken, error⟩ := put_refused put
      exact ⟨kept, _, List.mem_singleton_self _, error, taken⟩
  | putInternal name value => cases h
  | commit writes =>
    cases committed : c.commit writes with
    | ok done => simp [perform, committed] at h
    | error refusal =>
      simp only [perform, committed] at h ⊢
      cases h
      obtain ⟨kept, w, member, plain, taken, error⟩ := commit_refused committed
      exact ⟨kept, w, List.mem_filter.mpr ⟨member, by simp [plain]⟩, error, taken⟩

/-- Whatever has been called, and whatever is called after this call: what is there is found with its
value then. If the call is refused, all is as it was, and the refusal names a value that may not
give way and whose name was taken. A value that gives way is stored under a name that was free, its
own one if possible, and nothing else changes. -/
theorem run_writesOnce (seed : Context) (earlier : List Call) (call : Call) (later : List Call) :
    let c := seed.run earlier
    (∀ name value, c.get name = .ok value →
      (seed.run (earlier ++ call :: later)).get name = .ok value) ∧
    (∀ e, (c.perform call).1 = .refused e →
      (c.perform call).2 = c ∧
        ∃ w ∈ call.plain, e = .alreadyWritten w.name ∧ c.contains w.name = true) ∧
    (∀ name value, call = .putInternal name value →
      ∃ stored, (c.perform call).1 = .stored stored ∧ c.contains stored = false ∧
        (c.contains name = false → stored = name) ∧
        (c.perform call).2.values = c.values.insert stored value) := by
  intro c
  refine ⟨?_, fun e => perform_refused, ?_⟩
  · intro name value found
    rw [get_eq_ok] at found
    rw [run_append, get_eq_ok]
    exact run_within c (call :: later) name value found
  · rintro name value rfl
    refine ⟨(c.putInternal name value).1, rfl, ?_, ?_, rfl⟩
    · exact not_contains_iff.mpr (putInternal_new c name value)
    · intro free
      rw [putInternal_of_free (not_contains_iff.mp free)]

end Context

end Printworks
