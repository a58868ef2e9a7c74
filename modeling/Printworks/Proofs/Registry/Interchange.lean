import Printworks.Registry.Memory
import Printworks.Registry.Table
import Printworks.Proofs.Registry.Record
import Printworks.Proofs.Json.Printing

/-!
# Whether one registry can stand in for another

A table keeps the texts of the records that the registry in memory keeps, and serves every request as
the memory does, with one exception. The memory compares records as documents, in which the two zeros
are one number, and the table compares texts, which tell them apart: a conditional write that expects
the record that is there but for the sign of a zero is carried out by the one and not by the other.
Up to the first such request two registries that have started empty give the same replies.
-/

namespace Printworks

/-! ### The signs of zeros -/

namespace Double

/-- The number without the sign of a zero. -/
def unsignedZero (x : Double) : Double := if x.isZero then zero false else x

theorem sameNumber_iff {x y : Double} (finiteX : x.isFinite = true) (finiteY : y.isFinite = true) :
    x.sameNumber y = true ↔ x.unsignedZero = y.unsignedZero := by
  have number {z : Double} (finite : z.isFinite = true) : z.isNaN = false := by
    rw [isNaN, Bool.and_eq_false_iff, beq_eq_false_iff_ne]
    exact .inl (Nat.ne_of_lt (of_decide_eq_true finite))
  have zero : (zero false).isZero = true := by decide
  simp only [sameNumber, number finiteX, number finiteY, Bool.not_false, Bool.true_and,
    Bool.or_eq_true, beq_iff_eq, Bool.and_eq_true, unsignedZero]
  -- A zero is the only number that a zero without a sign can come from.
  cases zeroX : x.isZero <;> cases zeroY : y.isZero <;> grind

end Double

namespace JsonNumber

def unsignedZero (n : JsonNumber) : JsonNumber :=
  match n with
  | int n => int n
  | double x => double x.unsignedZero

theorem agrees_iff_unsignedZero {m n : JsonNumber} (finiteM : m.IsFinite) (finiteN : n.IsFinite) :
    m.agrees n = true ↔ m.unsignedZero = n.unsignedZero := by
  cases m with
  | int => cases n <;> simp [agrees, unsignedZero]
  | double x =>
    cases n with
    | int => simp [agrees, unsignedZero]
    | double y => simpa [agrees, unsignedZero] using Double.sameNumber_iff finiteM finiteN

end JsonNumber

namespace Json

/-- A plain value without the sign of a zero. -/
def unsignedZero (j : Json) : Json :=
  match j with
  | number n => number n.unsignedZero
  | j => j

theorem agrees_iff_unsignedZero {a b : Json} (plain : a.isPlain = true) (finiteA : a.IsFinite)
    (finiteB : b.IsFinite) : a.agrees b = true ↔ a.unsignedZero = b.unsignedZero := by
  cases a with
  | null | bool | text => cases b <;> simp [agrees, unsignedZero]
  | number m =>
    cases b with
    | number n => simpa [agrees, unsignedZero] using JsonNumber.agrees_iff_unsignedZero finiteA finiteB
    | _ => simp [agrees, unsignedZero]
  | array => cases plain
  | object => cases plain

end Json

namespace Record

def unsignedZeros (r : Record) : Record := r.map Json.unsignedZero

/-- Whether two records are not equal, but would be without the signs of zeros. -/
def DiffersInZeros (a b : Record) : Prop := a ≠ b ∧ a.unsignedZeros = b.unsignedZeros

instance (a b : Record) : Decidable (a.DiffersInZeros b) :=
  inferInstanceAs (Decidable (_ ∧ _))

/-- Whether all numbers of a record have digits. -/
def IsFinite (r : Record) : Prop := (Json.ofDict r).IsFinite

/-- Whether a record can be stored without loss. -/
structure IsStorable (r : Record) : Prop where
  flat : r.isFlat = true
  finite : r.IsFinite
  readBack : Registry.readRecord? (Registry.recordText r) = some r

variable {a b : Record}

theorem isFinite_single (field : String) {j : Json} (finite : j.IsFinite) :
    IsFinite (.ofList [(field, j)]) :=
  ⟨finite, trivial⟩

theorem isPlain_of_isFlat (flat : a.isFlat = true) : ∀ e ∈ a.toList, e.2.isPlain = true := by
  intro e member
  rw [isFlat, nestedField?, Option.isNone_iff_eq_none, Option.map_eq_none_iff] at flat
  simpa using List.find?_eq_none.mp flat e member

private theorem agreesEntries_iff {a b : List (String × Json)}
    (plain : ∀ e ∈ a, e.2.isPlain = true) (finiteA : Json.AreFiniteEntries a)
    (finiteB : Json.AreFiniteEntries b) : Json.agreesEntries a b = true ↔
      a.map (fun e => (e.1, e.2.unsignedZero)) = b.map (fun e => (e.1, e.2.unsignedZero)) := by
  induction a generalizing b with
  | nil => cases b <;> simp [Json.agreesEntries]
  | cons head rest ih =>
    cases b with
    | nil => simp [Json.agreesEntries]
    | cons head' rest' =>
      have first : head.2.agrees head'.2 = true ↔ head.2.unsignedZero = head'.2.unsignedZero :=
        Json.agrees_iff_unsignedZero (plain head List.mem_cons_self) finiteA.1 finiteB.1
      have others := ih (fun e member => plain e (List.mem_cons_of_mem _ member)) finiteA.2 finiteB.2
      simp [Json.agreesEntries, first, others]

/-- A flat record agrees with those that are equal to it without the signs of zeros. -/
theorem agrees_iff_unsignedZeros (flat : a.isFlat = true) (finiteA : a.IsFinite)
    (finiteB : b.IsFinite) : a.agrees b = true ↔ a.unsignedZeros = b.unsignedZeros := by
  rw [agrees, agreesEntries_iff (isPlain_of_isFlat flat) finiteA finiteB, Dict.ext_iff]
  rfl

theorem recordText_inj (finiteA : a.IsFinite) (finiteB : b.IsFinite) :
    Registry.recordText a = Registry.recordText b ↔ a = b := by
  refine ⟨fun same => ?_, fun eq => eq ▸ rfl⟩
  have entries := Json.compact_inj finiteA finiteB same
  simp only [Json.ofDict, Json.object.injEq] at entries
  exact Dict.ext entries

end Record

theorem Dict.map_insert {α β : Type} (d : Dict α) (key : String) (value : α) (f : α → β) :
    (d.insert key value).map f = (d.map f).insert key (f value) := by
  refine Dict.ext_get? (fun other => ?_)
  rw [get?_map, get?_insert, get?_insert, get?_map]
  split <;> rfl

namespace Registry

/-! ### Requests -/

namespace Request

/-- The record that is to be written. -/
def record? (q : Request) : Option Record :=
  match q with
  | .get _ => none
  | .contains _ => none
  | .put _ record => some record
  | .putIfAbsent _ record => some record
  | .compareAndPut _ _ record => some record

/-- The record that is expected to be there. -/
def expected? (q : Request) : Option Record :=
  match q with
  | .compareAndPut _ expected _ => some expected
  | _ => none

/-- Whether the texts of the records of a request are faithful: all numbers have digits, and a record
that may be written is read from its text. -/
structure IsFaithful (q : Request) : Prop where
  record : ∀ r, q.record? = some r → r.IsFinite
  expected : ∀ r, q.expected? = some r → r.IsFinite
  readBack : ∀ r, q.record? = some r → r.isFlat = true → readRecord? (recordText r) = some r

/-- Whether a request is a conditional write that expects what is there but for the signs of
zeros. -/
def ConfusesZeros (q : Request) (m : Memory) : Prop :=
  ∃ key expected record current, q = .compareAndPut key expected record ∧ record.isFlat = true ∧
    m.records.get? key = some current ∧ current.DiffersInZeros expected

end Request

/-- The replies to some requests, one after the other. -/
def serveAll {Store : Type} [Registry Store] (requests : List Request) (store : Store) :
    List Reply × Store :=
  match requests with
  | [] => ([], store)
  | q :: rest =>
    let (first, store) := serve q store
    let (replies, store) := serveAll rest store
    (first :: replies, store)

theorem serveAll_cons {Store : Type} [Registry Store] (q : Request) (rest : List Request)
    (store : Store) : serveAll (q :: rest) store =
      ((serve q store).1 :: (serveAll rest (serve q store).2).1,
        (serveAll rest (serve q store).2).2) := rfl

/-- What every request keeps holds after all of them. -/
theorem serveAll_induction {Store : Type} [Registry Store] {requests : List Request}
    {P : Store → Prop} {store : Store} (start : P store)
    (step : ∀ q ∈ requests, ∀ store, P store → P (serve q store).2) :
    P (serveAll requests store).2 := by
  induction requests generalizing store with
  | nil => exact start
  | cons q rest ih =>
    have first : P (serve q store).2 := step q List.mem_cons_self store start
    exact ih first (fun q member => step q (List.mem_cons_of_mem _ member))

/-! ### What both registries do -/

/-- What a registry finds and what it writes. -/
structure View (Store : Type) where
  store : Store
  read : String → Except StoreError (Option Record)
  present : String → Bool
  holds : String → Record → Bool
  write : String → Record → Store

namespace View

variable {Store Store' : Type} {v : View Store} {w : View Store'} {q : Request} {r : Record}

/-- Write a record if it is flat and a condition is met. -/
def attempt (v : View Store) (key : String) (record : Record) (condition : Bool)
    (success : Bool → Reply) : Reply × Store :=
  match record.nestedField? with
  | some field => (.failed (.nonPrimitive field), v.store)
  | none => if condition then (success true, v.write key record) else (success false, v.store)

/-- How a request is served that depends on nothing else. -/
def serve (v : View Store) (q : Request) : Reply × Store :=
  match q with
  | .get key => reply .record (v.read key, v.store)
  | .contains key => (.flag (v.present key), v.store)
  | .put key record => v.attempt key record true (fun _ => .done)
  | .putIfAbsent key record => v.attempt key record (!v.present key) .flag
  | .compareAndPut key expected record => v.attempt key record (v.holds key expected) .flag

/-- A record that is not flat is refused before the condition is looked at. -/
theorem reply_ifFlat (v : View Store) (key : String) (r : Record) (condition : Bool)
    (success : Bool → Reply) : reply success (r.ifFlat v.store
      (if condition then (.ok true, v.write key r) else (.ok false, v.store))) =
        v.attempt key r condition success := by
  rw [attempt, Record.ifFlat, Record.ensureFlat]
  cases r.nestedField? with
  | some field => rfl
  | none => cases condition <;> rfl

/-- A write without a condition is one whose condition is met. -/
theorem reply_put (v : View Store) (key : String) (r : Record) :
    reply (fun _ => .done) (r.ifFlat v.store (.ok (), v.write key r)) =
      v.attempt key r true (fun _ => .done) := by
  rw [attempt, Record.ifFlat, Record.ensureFlat]
  cases r.nestedField? <;> rfl

theorem attempt_cases (v : View Store) (key : String) (r : Record) (condition : Bool)
    (success : Bool → Reply) : (v.attempt key r condition success).2 = v.store ∨
      r.isFlat = true ∧ (v.attempt key r condition success).2 = v.write key r := by
  unfold attempt
  split
  next => exact .inl rfl
  next flat =>
    cases condition with
    | false => exact .inl rfl
    | true => exact .inr ⟨Option.isNone_iff_eq_none.mpr flat, rfl⟩

theorem serve_rejected {field : String} (writes : q.record? = some r)
    (nested : r.nestedField? = some field) :
    v.serve q = (.failed (.nonPrimitive field), v.store) := by
  cases q with
  | get | contains => cases writes
  | put | putIfAbsent | compareAndPut =>
    cases writes
    simp only [serve, attempt, nested]

/-- A request writes its record at most, and only if that is flat. -/
theorem serve_cases (v : View Store) (q : Request) : (v.serve q).2 = v.store ∨
    ∃ key r, q.record? = some r ∧ r.isFlat = true ∧ (v.serve q).2 = v.write key r := by
  cases q with
  | get key => exact .inl (by cases found : v.read key <;> simp [serve, reply, found])
  | contains => exact .inl rfl
  | put key r | putIfAbsent key r | compareAndPut key _ r =>
    exact (v.attempt_cases key r _ _).imp_right (fun written => ⟨key, r, rfl, written⟩)

/-- Two registries that find the same and write alike serve a request alike. -/
theorem serve_map (f : Store → Store') (store : w.store = f v.store) (read : w.read = v.read)
    (present : w.present = v.present) (write : ∀ key r, w.write key r = f (v.write key r))
    (holds : ∀ key expected r, q = .compareAndPut key expected r → r.isFlat = true →
      w.holds key expected = v.holds key expected) :
    w.serve q = ((v.serve q).1, f (v.serve q).2) := by
  have attempted (key : String) (r : Record) (condition condition' : Bool)
      (success : Bool → Reply) (same : r.isFlat = true → condition' = condition) :
      w.attempt key r condition' success =
        ((v.attempt key r condition success).1, f (v.attempt key r condition success).2) := by
    unfold attempt
    split
    next => rw [store]
    next flat =>
      rw [same (Option.isNone_iff_eq_none.mpr flat), write, store]
      split <;> rfl
  cases q with
  | get key => cases found : v.read key <;> simp [serve, reply, read, store, found]
  | contains => simp only [serve, present, store]
  | put key r => exact attempted key r true true (fun _ => .done) (fun _ => rfl)
  | putIfAbsent key r => exact attempted key r _ _ _ (fun _ => by rw [present])
  | compareAndPut key expected r => exact attempted key r _ _ _ (holds key expected r rfl)

end View

variable {m : Memory} {t : Table} {q : Request} {requests : List Request} {P : Record → Prop}

def Memory.view (m : Memory) : View Memory where
  store := m
  read key := .ok (m.records.get? key)
  present := m.records.contains
  holds key expected := m.holds key expected
  write key record := m.write key record

def Table.view (t : Table) : View Table where
  store := t
  read key := t.read key
  present := t.rows.contains
  holds key expected := t.holds key expected
  write key record := t.write key record

theorem Memory.serve_eq (q : Request) (m : Memory) : serve q m = m.view.serve q := by
  cases q with
  | get | contains => rfl
  | put key r => exact View.reply_put m.view key r
  | putIfAbsent key r =>
    simp only [serve, putIfAbsent, View.serve, view]
    cases m.records.contains key with
    | true => exact View.reply_ifFlat m.view key r false .flag
    | false => exact View.reply_ifFlat m.view key r true .flag
  | compareAndPut key expected r => exact View.reply_ifFlat m.view key r _ .flag

theorem Table.serve_eq (q : Request) (t : Table) : serve q t = t.view.serve q := by
  cases q with
  | get | contains => rfl
  | put key r => exact View.reply_put t.view key r
  | putIfAbsent key r =>
    simp only [serve, putIfAbsent, View.serve, view]
    cases t.rows.contains key with
    | true => exact View.reply_ifFlat t.view key r false .flag
    | false => exact View.reply_ifFlat t.view key r true .flag
  | compareAndPut key expected r => exact View.reply_ifFlat t.view key r _ .flag

/-! ### What is stored -/

/-- Whether all records have a property. -/
def Memory.All (P : Record → Prop) (m : Memory) : Prop :=
  ∀ key r, m.records.get? key = some r → P r

/-- Whether all rows are texts of records with a property. -/
def Table.All (P : Record → Prop) (t : Table) : Prop :=
  ∀ key text, t.rows.get? key = some text → ∃ r, P r ∧ text = recordText r

/-- Whether the flat records that may be written have a property. -/
def Request.Writes (P : Record → Prop) (q : Request) : Prop :=
  ∀ r, q.record? = some r → r.isFlat = true → P r

theorem Request.IsFaithful.writes (faithful : q.IsFaithful) : q.Writes Record.IsStorable :=
  fun r record flat => ⟨flat, faithful.record r record, faithful.readBack r record flat⟩

theorem Memory.all_empty : Memory.empty.All P := by
  simp [Memory.All, Memory.empty]

theorem Table.all_empty : Table.empty.All P := by
  simp [Table.All, Table.empty]

theorem Memory.All.serve (all : m.All P) (writes : q.Writes P) : (serve q m).2.All P := by
  rw [Memory.serve_eq]
  rcases m.view.serve_cases q with same | ⟨key, r, record, flat, written⟩
  · rwa [same]
  · rw [written]
    intro other r' found
    simp only [view, write, Dict.get?_insert] at found
    split at found
    next =>
      cases found
      exact writes r record flat
    next => exact all other r' found

theorem Table.All.serve (all : t.All P) (writes : q.Writes P) : (serve q t).2.All P := by
  rw [Table.serve_eq]
  rcases t.view.serve_cases q with same | ⟨key, r, record, flat, written⟩
  · rwa [same]
  · rw [written]
    intro other text found
    simp only [view, write, writeText, Dict.get?_insert] at found
    split at found
    next =>
      cases found
      exact ⟨r, writes r record flat, rfl⟩
    next => exact all other text found

theorem Memory.All.serveAll (all : m.All P) (writes : ∀ q ∈ requests, q.Writes P) :
    (serveAll requests m).2.All P :=
  serveAll_induction all (fun q member _ all => all.serve (writes q member))

theorem Table.All.serveAll (all : t.All P) (writes : ∀ q ∈ requests, q.Writes P) :
    (serveAll requests t).2.All P :=
  serveAll_induction all (fun q member _ all => all.serve (writes q member))

/-! ### A table beside a memory -/

/-- The table of the texts of all records. -/
def Memory.mirror (m : Memory) : Table := ⟨m.records.map recordText⟩

theorem Memory.mirror_write (key : String) (r : Record) (m : Memory) :
    (m.write key r).mirror = m.mirror.write key r := by
  rw [mirror, write, Dict.map_insert]
  rfl

theorem Memory.mirror_read (storable : m.All Record.IsStorable) (key : String) :
    m.mirror.read key = .ok (m.records.get? key) := by
  rw [Table.read, mirror, Dict.get?_map]
  cases found : m.records.get? key with
  | none => rfl
  | some r => simp [(storable key r found).readBack]

theorem Memory.mirror_contains (m : Memory) (key : String) :
    m.mirror.rows.contains key = m.records.contains key := by
  rw [mirror, Dict.contains, Dict.contains, Dict.get?_map, Option.isSome_map]

/-- The texts tell apart what differs in the sign of a zero, and nothing else that the documents do
not. -/
theorem Memory.mirror_holds (storable : m.All Record.IsStorable) {key : String} {expected : Record}
    (finite : expected.IsFinite) : m.mirror.holds key expected = true ↔
      m.holds key expected = true ∧
        ∀ current, m.records.get? key = some current → ¬ current.DiffersInZeros expected := by
  rw [Table.holds, holds, mirror, Dict.get?_map]
  cases found : m.records.get? key with
  | none => simp
  | some current =>
    have stored := storable key current found
    have same : recordText current = recordText expected ↔ current = expected :=
      Record.recordText_inj stored.finite finite
    have agrees : current.agrees expected = true ↔
        current.unsignedZeros = expected.unsignedZeros :=
      Record.agrees_iff_unsignedZeros stored.flat stored.finite finite
    simp only [Option.map_some, beq_iff_eq, Option.some.injEq, same, Option.any_some, agrees,
      Record.DiffersInZeros, not_and, forall_eq']
    grind

theorem serve_mirror (storable : m.All Record.IsStorable) (faithful : q.IsFaithful)
    (clear : ¬ q.ConfusesZeros m) :
    serve q m.mirror = ((serve q m).1, (serve q m).2.mirror) := by
  rw [Table.serve_eq, Memory.serve_eq]
  refine View.serve_map Memory.mirror rfl ?_ ?_ (fun key r => (m.mirror_write key r).symm) ?_
  · exact funext (m.mirror_read storable)
  · exact funext m.mirror_contains
  · intro key expected r eq flat
    have finite : expected.IsFinite := faithful.expected expected (by rw [eq]; rfl)
    refine Bool.eq_iff_iff.mpr ((m.mirror_holds storable finite).trans (and_iff_left ?_))
    exact fun current found differs => clear ⟨key, expected, r, current, eq, flat, found, differs⟩

/-- What agrees but for the signs of zeros is replaced in memory and left alone in a table. -/
theorem serve_ne_of_confusesZeros (storable : m.All Record.IsStorable) (faithful : q.IsFaithful)
    (confused : q.ConfusesZeros m) : (serve q m.mirror).1 ≠ (serve q m).1 := by
  obtain ⟨key, expected, r, current, rfl, flat, found, differs⟩ := confused
  have finite := faithful.expected expected rfl
  have replaced : m.holds key expected = true := by
    rw [Memory.holds, found, Option.any_some]
    have stored := storable key current found
    exact (Record.agrees_iff_unsignedZeros stored.flat stored.finite finite).mpr differs.2
  have left : m.mirror.holds key expected = false := by
    rw [Bool.eq_false_iff, Ne, m.mirror_holds storable finite]
    exact fun ⟨_, clear⟩ => clear current found differs
  rw [Table.serve_eq, Memory.serve_eq]
  have nested := Option.isNone_iff_eq_none.mp flat
  simp [View.serve, View.attempt, Memory.view, Table.view, nested, replaced, left]

/-- Whether one of some requests is a conditional write that expects what is there but for the signs
of zeros. -/
def SomeConfuses (requests : List Request) (m : Memory) : Prop :=
  ∃ before q after, requests = before ++ q :: after ∧ q.ConfusesZeros (serveAll before m).2

theorem someConfuses_cons {rest : List Request} : SomeConfuses (q :: rest) m ↔
    q.ConfusesZeros m ∨ SomeConfuses rest (serve q m).2 := by
  constructor
  · rintro ⟨before, q', after, eq, confused⟩
    cases before with
    | nil =>
      cases eq
      exact .inl confused
    | cons first before =>
      cases eq
      exact .inr ⟨before, q', after, rfl, confused⟩
  · rintro (confused | ⟨before, q', after, rfl, confused⟩)
    · exact ⟨[], q, rest, rfl, confused⟩
    · exact ⟨q :: before, q', after, rfl, confused⟩

theorem serveAll_mirror_iff (storable : m.All Record.IsStorable)
    (faithful : ∀ q ∈ requests, q.IsFaithful) :
    (serveAll requests m).1 = (serveAll requests m.mirror).1 ↔ ¬ SomeConfuses requests m := by
  induction requests generalizing m with
  | nil =>
    refine ⟨fun _ => ?_, fun _ => rfl⟩
    rintro ⟨before, q, after, eq, -⟩
    simp at eq
  | cons q rest ih =>
    have known := faithful q List.mem_cons_self
    rw [serveAll_cons, serveAll_cons, someConfuses_cons, List.cons.injEq]
    by_cases confused : q.ConfusesZeros m
    -- The two registries part here, whatever comes after.
    · have differ := serve_ne_of_confusesZeros storable known confused
      simp [confused, differ.symm]
    -- The table is a mirror of the memory again, so that the rest goes on from there.
    · have same := serve_mirror storable known confused
      have after : (serve q m).2.All Record.IsStorable :=
        storable.serve known.writes
      rw [same]
      simp only [true_and, confused, false_or]
      exact ih after (fun q member => faithful q (List.mem_cons_of_mem _ member))

/-- Without signed zeros nothing tells the two registries apart. -/
theorem serveAll_eq_of_unsignedZeros (faithful : ∀ q ∈ requests, q.IsFaithful)
    (record : ∀ q ∈ requests, ∀ r, q.record? = some r → r.unsignedZeros = r)
    (expected : ∀ q ∈ requests, ∀ r, q.expected? = some r → r.unsignedZeros = r) :
    (serveAll requests Memory.empty).1 = (serveAll requests Table.empty).1 := by
  refine (serveAll_mirror_iff (m := Memory.empty) Memory.all_empty faithful).mpr ?_
  rintro ⟨before, q, after, rfl, key, e, r, current, rfl, -, found, differs, same⟩
  -- What is stored then has come from one of the requests, and has no sign at a zero either.
  have unsigned : (serveAll before Memory.empty).2.All (fun r => r.unsignedZeros = r) :=
    Memory.All.serveAll Memory.all_empty (fun q member r written _ =>
      record q (List.mem_append_left _ member) r written)
  rw [unsigned key current found, expected (.compareAndPut key e r) (by simp) e rfl] at same
  exact differs same

/-- Two registries that start empty, one in memory and one in a table, give the same replies to any
requests, unless a conditional write among them expects what is there but for the signs of zeros; then
they do not. All that either of them holds is flat, and reads so, and a request to write what is not
flat is refused by both with the same error and changes nothing. -/
theorem serveAll_interchange (requests : List Request) (faithful : ∀ q ∈ requests, q.IsFaithful) :
    let m := (serveAll requests Memory.empty).2
    let t := (serveAll requests Table.empty).2
    ((serveAll requests Memory.empty).1 = (serveAll requests Table.empty).1 ↔
      ¬ SomeConfuses requests Memory.empty) ∧
    (∀ key r, m.records.get? key = some r → r.isFlat = true) ∧
    (∀ key text, t.rows.get? key = some text → ∃ r, readRecord? text = some r ∧ r.isFlat = true) ∧
    ∀ q r field, q.record? = some r → r.nestedField? = some field →
      serve q m = (.failed (.nonPrimitive field), m) ∧
        serve q t = (.failed (.nonPrimitive field), t) := by
  intro m t
  have writes : ∀ q ∈ requests, q.Writes Record.IsStorable := fun q member =>
    (faithful q member).writes
  have memory : m.All Record.IsStorable := Memory.All.serveAll Memory.all_empty writes
  have table : t.All Record.IsStorable := Table.All.serveAll Table.all_empty writes
  refine ⟨?_, fun key r found => (memory key r found).flat, ?_, ?_⟩
  · exact serveAll_mirror_iff (m := Memory.empty) Memory.all_empty faithful
  · intro key text found
    obtain ⟨r, storable, rfl⟩ := table key text found
    exact ⟨r, storable.readBack, storable.flat⟩
  · intro q r field record nested
    rw [Memory.serve_eq, Table.serve_eq]
    exact ⟨View.serve_rejected record nested, View.serve_rejected record nested⟩

/-- A record is put down, kept when one that is not flat comes, and replaced. -/
theorem serveAll_interchange_scale :
    let scale : Record := .ofList [("scale", .double (.ofRatio true 1 2))]
    let nested : Record := .ofList [("layers", .texts ["roads"])]
    let requests := [.putIfAbsent "job" scale, .put "job" nested,
      .compareAndPut "job" scale (.ofList [("success", .bool true)]), .get "job"]
    (∀ q ∈ requests, q.IsFaithful) ∧ ¬ SomeConfuses requests Memory.empty := by
  intro scale nested requests
  have finiteScale : scale.IsFinite := Record.isFinite_single "scale" (Json.isFinite_double _)
  have finiteNested : nested.IsFinite := Record.isFinite_single "layers" ⟨trivial, trivial⟩
  have finiteSuccess : Record.IsFinite (.ofList [("success", .bool true)]) :=
    Record.isFinite_single "success" trivial
  have faithful : ∀ q ∈ requests, q.IsFaithful := by
    simp only [requests, List.forall_mem_cons, List.not_mem_nil, false_implies, implies_true, and_true]
    refine ⟨⟨?_, ?_, ?_⟩, ⟨?_, ?_, ?_⟩, ⟨?_, ?_, ?_⟩, ⟨?_, ?_, ?_⟩⟩ <;>
      simp [Request.record?, Request.expected?, finiteScale, finiteNested, finiteSuccess] <;>
      decide +kernel
  exact ⟨faithful, (serveAll_interchange requests faithful).1.mp (by decide +kernel)⟩

/-- A zero is put down, and replaced if it is one with a sign. -/
theorem zeros_told_apart :
    let zero (negative : Bool) : Record := .ofList [("x", .double (.zero negative))]
    let requests := [.put "k" (zero false),
      .compareAndPut "k" (zero true) (.ofList [("done", .bool true)])]
    (∀ q ∈ requests, q.IsFaithful) ∧
      (serveAll requests Memory.empty).1 = [.done, .flag true] ∧
      (serveAll requests Table.empty).1 = [.done, .flag false] := by
  intro zero requests
  have finiteZero (negative : Bool) : (zero negative).IsFinite :=
    Record.isFinite_single "x" (Json.isFinite_double _)
  have finiteDone : Record.IsFinite (.ofList [("done", .bool true)]) :=
    Record.isFinite_single "done" trivial
  refine ⟨?_, by decide +kernel, by decide +kernel⟩
  simp only [requests, List.forall_mem_cons, List.not_mem_nil, false_implies, implies_true, and_true]
  refine ⟨⟨?_, ?_, ?_⟩, ⟨?_, ?_, ?_⟩⟩ <;>
    simp [Request.record?, Request.expected?, finiteZero, finiteDone] <;>
    decide +kernel

end Registry

end Printworks
