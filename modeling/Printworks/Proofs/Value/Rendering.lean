import Printworks.Contract.Coercion
import Printworks.Proofs.Contract.Typing
import Printworks.Proofs.Decimal.Rounding
import Printworks.Proofs.Json.Canonical

/-!
# Plain documents of values

A value that a document has been coerced to can be written as a plain document. That one is in order and
is coerced to the value again. The only exceptions are numbers that are not finite: a text may give one,
and they are written as null.
-/

namespace Printworks

/-! ### Numbers -/

namespace Double

theorem roundDiv_le (num den : ℕ) : roundDiv num den ≤ num / den + 1 := by
  simp only [roundDiv]
  split <;> omega

theorem isFinite_ofPayload (negative : Bool) {payload : ℕ}
    (low : payload < topExponent * fractionSize) : (ofPayload negative payload).isFinite = true := by
  rw [show topExponent * fractionSize = 9218868437227405312 by decide] at low
  have same : (ofPayload negative payload).payload = payload := by
    simp only [Double.payload, ofPayload, UInt64.toNat_ofNat', Nat.pow_eq]
    cases negative <;> simp <;> omega
  unfold isFinite exponentField
  rw [same, decide_eq_true_iff, fractionSize_eq, topExponent]
  omega

/-- A number scaled down to about 53 bits has no more than 54. -/
theorem roundDiv_scaled_le {num : ℕ} {q : ℤ} (enough : (Nat.log2 num : ℤ) - 53 ≤ q) :
    roundDiv (num * twoPow (-q)) (1 * twoPow q) ≤ 2 ^ 54 := by
  have above : num < 2 ^ (Nat.log2 num + 1) := Nat.lt_log2_self
  refine (roundDiv_le _ _).trans ?_
  rw [Nat.add_one_le_iff, one_mul, Nat.div_lt_iff_lt_mul (twoPow_pos q)]
  -- One of the two powers is that of a natural exponent, and the other one is 1.
  obtain ⟨n, rfl | rfl⟩ := q.eq_nat_or_neg
  · have shift : Nat.log2 num + 1 ≤ 54 + n := by omega
    calc num * twoPow (-n) = num := by simp [twoPow]
      _ < 2 ^ (Nat.log2 num + 1) := above
      _ ≤ 2 ^ (54 + n) := Nat.pow_le_pow_right (by decide) shift
      _ = 2 ^ 54 * twoPow n := by rw [Nat.pow_add]; rfl
  · have shift : Nat.log2 num + 1 + n ≤ 54 := by omega
    calc num * twoPow (- -n) = num * 2 ^ n := by simp [twoPow]
      _ < 2 ^ (Nat.log2 num + 1) * 2 ^ n := Nat.mul_lt_mul_of_pos_right above (by positivity)
      _ = 2 ^ (Nat.log2 num + 1 + n) := (Nat.pow_add _ _ _).symm
      _ ≤ 2 ^ 54 := Nat.pow_le_pow_right (by decide) shift
      _ = 2 ^ 54 * twoPow (-n) := by simp [twoPow]

/-- A whole number of 64 bits is far from the greatest double. -/
theorem isFinite_ofInt {n : ℤ} (bound : n.natAbs < 2 ^ 64) : (ofInt n).isFinite = true := by
  unfold ofInt ofRatio
  split
  next => exact isFinite_ofPayload _ (by decide)
  next some_ =>
    have pos : n.natAbs ≠ 0 := fun zero => some_ (.inl zero)
    have bits : Nat.log2 n.natAbs < 64 := (Nat.log2_lt pos).mpr bound
    have one : Nat.log2 1 = 0 := by decide
    simp only [one]
    generalize scale : max (-1074 : ℤ) _ = q
    have range : (Nat.log2 n.natAbs : ℤ) - 53 ≤ q ∧ q ≤ 11 := by
      rw [← scale]
      split <;> omega
    have significand := roundDiv_scaled_le range.1
    generalize roundDiv _ _ = m at significand ⊢
    have exponent : (q + 1075).toNat * fractionSize ≤ 1086 * fractionSize :=
      Nat.mul_le_mul_right _ (by omega)
    have small : (if m < fractionSize then m
        else (q + 1075).toNat * fractionSize + (m - fractionSize)) < topExponent * fractionSize := by
      rw [fractionSize_eq] at exponent ⊢
      rw [topExponent]
      split <;> omega
    rw [if_neg (by omega)]
    exact isFinite_ofPayload _ small

end Double

theorem Json.word?_toInt (n : Int64) : Json.word? n.toInt = some n := by
  have low : Int64.minValue.toInt ≤ n.toInt := n.minValue_le_toInt
  have high : n.toInt ≤ Int64.maxValue.toInt := Int.le_sub_one_of_lt n.toInt_lt
  rw [Json.word?, if_pos ⟨low, high⟩, Int64.ofInt_toInt]

/-- Whether a number is one that documents have: whole and of 64 bits, with or without a sign, or a
finite double. -/
def JsonNumber.IsProper : JsonNumber → Prop
  | int n => -2 ^ 63 ≤ n ∧ n < 2 ^ 64
  | double x => x.isFinite = true

namespace Json

mutual

def IsProper : Json → Prop
  | number n => n.IsProper
  | array items => AreProper items
  | object entries => AreProperEntries entries
  | _ => True

def AreProper : List Json → Prop
  | [] => True
  | item :: rest => item.IsProper ∧ AreProper rest

def AreProperEntries : List (String × Json) → Prop
  | [] => True
  | (_, item) :: rest => item.IsProper ∧ AreProperEntries rest

end

end Json

namespace Value

/-! ### Values without a declared type -/

theorem areFiniteEntries_iff {entries : List (String × Value)} :
    AreFiniteEntries entries ↔ ∀ e ∈ entries, e.2.IsFinite := by
  induction entries with
  | nil => simp [AreFiniteEntries]
  | cons e rest ih => simp [AreFiniteEntries, ih]

theorem isFinite_ofNumber {n : JsonNumber} (proper : n.IsProper) : (ofNumber n).IsFinite := by
  cases n with
  | double x => exact proper
  | int i =>
    obtain ⟨low, high⟩ := proper
    rw [ofNumber]
    split
    next => trivial
    next => exact Double.isFinite_ofInt (by omega)

mutual

theorem isFinite_ofJson (j : Json) (proper : j.IsProper) : (ofJson j).IsFinite := by
  match j with
  | .null => trivial
  | .bool _ => trivial
  | .number n => exact isFinite_ofNumber proper
  | .text _ => trivial
  | .array items => exact areFinite_ofItems items proper
  | .object entries => exact areFiniteEntries_iff.mpr (isFinite_of_mem_ofEntries entries proper)

theorem areFinite_ofItems (items : List Json) (proper : Json.AreProper items) :
    AreFinite (ofItems items) := by
  match items with
  | [] => trivial
  | item :: rest => exact ⟨isFinite_ofJson item proper.1, areFinite_ofItems rest proper.2⟩

theorem isFinite_of_mem_ofEntries (entries : List (String × Json))
    (proper : Json.AreProperEntries entries) : ∀ e ∈ (ofEntries entries).toList, e.2.IsFinite := by
  match entries with
  | [] => exact fun _ member => absurd member List.not_mem_nil
  | (key, item) :: rest =>
    intro e member
    rcases Dict.mem_insertNew member with rfl | member
    · exact isFinite_ofJson item proper.1
    · exact isFinite_of_mem_ofEntries rest proper.2 e member

end

theorem ofNumber_toJson {n : JsonNumber} (finite : (ofNumber n).IsFinite) :
    ofJson (ofNumber n).toJson = ofNumber n := by
  have double {x : Double} (finite : x.isFinite = true) :
      ofJson (number x).toJson = number x := by
    rw [toJson, Json.double, if_pos finite]
    rfl
  cases n with
  | double x => exact double finite
  | int i =>
    cases word : Json.word? i with
    | some w => simp only [ofNumber, word, toJson, ofJson, Json.int, Json.word?_toInt]
    | none =>
      simp only [ofNumber, word] at finite ⊢
      exact double finite

/-- The entries of a map whose values are known from their documents are known from theirs. -/
theorem ofEntries_entriesToJson {entries : List (String × Value)}
    (increasing : Entries.Increasing entries) (same : ∀ e ∈ entries, ofJson e.2.toJson = e.2) :
    (ofEntries (entriesToJson entries)).toList = entries := by
  induction entries with
  | nil => rfl
  | cons e rest ih =>
    obtain ⟨key, v⟩ := e
    obtain ⟨first, increasing⟩ := List.pairwise_cons.mp increasing
    have others := ih increasing (fun e member => same e (List.mem_cons_of_mem _ member))
    have own : ofJson v.toJson = v := same (key, v) List.mem_cons_self
    rw [entriesToJson, ofEntries, own, Dict.toList_insertNew_first (by rwa [others]), others]

mutual

/-- A value that a document is taken as is taken again from its plain document. -/
theorem ofJson_toJson_ofJson (j : Json) (finite : (ofJson j).IsFinite) :
    ofJson (ofJson j).toJson = ofJson j := by
  match j with
  | .null => rfl
  | .bool _ => rfl
  | .number n => exact ofNumber_toJson finite
  | .text _ => rfl
  | .array items =>
    rw [ofJson, toJson, ofJson, ofItems_itemsToJson_ofItems items finite]
  | .object entries =>
    rw [ofJson, toJson, ofJson]
    congr 1
    apply ofEntries_entriesToJson (ofEntries entries).increasing
    intro e member
    exact ofJson_toJson_of_mem entries e member (areFiniteEntries_iff.mp finite e member)

theorem ofItems_itemsToJson_ofItems (items : List Json) (finite : AreFinite (ofItems items)) :
    ofItems (itemsToJson (ofItems items)) = ofItems items := by
  match items with
  | [] => rfl
  | item :: rest =>
    rw [ofItems, itemsToJson, ofItems, ofJson_toJson_ofJson item finite.1,
      ofItems_itemsToJson_ofItems rest finite.2]

theorem ofJson_toJson_of_mem (entries : List (String × Json)) :
    ∀ e ∈ (ofEntries entries).toList, e.2.IsFinite → ofJson e.2.toJson = e.2 := by
  match entries with
  | [] => exact fun _ member => absurd member List.not_mem_nil
  | (key, item) :: rest =>
    intro e member finite
    rcases Dict.mem_insertNew member with rfl | member
    · exact ofJson_toJson_ofJson item finite
    · exact ofJson_toJson_of_mem rest e member finite

end

/-! ### Maps in order -/

mutual

/-- Whether the maps in a value list their entries in increasing order of their names, as maps do. -/
def IsOrdered : Value → Prop
  | list items => AreOrdered items
  | map entries => Entries.Increasing entries ∧ AreOrderedEntries entries
  | _ => True

def AreOrdered : List Value → Prop
  | [] => True
  | item :: rest => item.IsOrdered ∧ AreOrdered rest

def AreOrderedEntries : List (String × Value) → Prop
  | [] => True
  | (_, item) :: rest => item.IsOrdered ∧ AreOrderedEntries rest

end

theorem areOrderedEntries_iff {entries : List (String × Value)} :
    AreOrderedEntries entries ↔ ∀ e ∈ entries, e.2.IsOrdered := by
  induction entries with
  | nil => simp [AreOrderedEntries]
  | cons e rest ih => simp [AreOrderedEntries, ih]

mutual

theorem isOrdered_ofJson (j : Json) : (ofJson j).IsOrdered := by
  match j with
  | .null => trivial
  | .bool _ => trivial
  | .number (.double _) => trivial
  | .number (.int i) =>
    rw [ofJson, ofNumber]
    split
    · trivial
    · trivial
  | .text _ => trivial
  | .array items => exact areOrdered_ofItems items
  | .object entries =>
    exact ⟨(ofEntries entries).increasing,
      areOrderedEntries_iff.mpr (isOrdered_of_mem_ofEntries entries)⟩

theorem areOrdered_ofItems (items : List Json) : AreOrdered (ofItems items) := by
  match items with
  | [] => trivial
  | item :: rest => exact ⟨isOrdered_ofJson item, areOrdered_ofItems rest⟩

theorem isOrdered_of_mem_ofEntries (entries : List (String × Json)) :
    ∀ e ∈ (ofEntries entries).toList, e.2.IsOrdered := by
  match entries with
  | [] => exact fun _ member => absurd member List.not_mem_nil
  | (key, item) :: rest =>
    intro e member
    rcases Dict.mem_insertNew member with rfl | member
    · exact isOrdered_ofJson item
    · exact isOrdered_of_mem_ofEntries rest e member

end

theorem entriesToJson_eq (entries : List (String × Value)) :
    entriesToJson entries = entries.map (fun e => (e.1, e.2.toJson)) := by
  induction entries with
  | nil => rfl
  | cons e rest ih => rw [entriesToJson, ih, List.map_cons]

theorem canonical_plainArtifact (ref : Artifact) :
    (plainArtifact ref).canonical = plainArtifact ref := by
  obtain ⟨location, contentType⟩ := ref
  cases contentType <;> rfl

mutual

/-- The plain document of a value whose maps are in order is in order, too. -/
theorem canonical_toJson (v : Value) (ordered : v.IsOrdered) : v.toJson.canonical = v.toJson := by
  match v with
  | null => rfl
  | bool _ => rfl
  | integer _ => rfl
  | number x =>
    rw [toJson, Json.double]
    split
    · rfl
    · rfl
  | string _ => rfl
  | list items => rw [toJson, Json.canonical, canonicalItems_itemsToJson items ordered]
  | map entries =>
    rw [toJson, Json.canonical, entriesToJson_eq]
    congr 1
    apply Json.canonicalEntries_of_increasing
    · exact List.pairwise_map.mpr ordered.1
    · intro e member
      obtain ⟨entry, inside, rfl⟩ := List.mem_map.mp member
      exact canonical_toJson_of_mem entries ordered.2 entry inside
  | artifact ref => exact canonical_plainArtifact ref

theorem canonicalItems_itemsToJson (items : List Value) (ordered : AreOrdered items) :
    Json.canonicalItems (itemsToJson items) = itemsToJson items := by
  match items with
  | [] => rfl
  | item :: rest =>
    rw [itemsToJson, Json.canonicalItems, canonical_toJson item ordered.1,
      canonicalItems_itemsToJson rest ordered.2]

theorem canonical_toJson_of_mem (entries : List (String × Value))
    (ordered : AreOrderedEntries entries) : ∀ e ∈ entries, e.2.toJson.canonical = e.2.toJson := by
  match entries with
  | [] => exact fun _ member => absurd member List.not_mem_nil
  | (key, item) :: rest =>
    intro e member
    rcases List.mem_cons.mp member with rfl | member
    · exact canonical_toJson item ordered.1
    · exact canonical_toJson_of_mem rest ordered.2 e member

end

/-! ### Coerced values -/

theorem decode?_plainArtifact (ref : Artifact) : Artifact.decode? (plainArtifact ref) = some ref := by
  obtain ⟨location, contentType⟩ := ref
  cases contentType with
  | none =>
    simp [plainArtifact, Artifact.decode?, Json.record, Json.entry?, Json.fields?, Json.part?,
      Json.Fields.required, Json.Fields.optional, Json.Fields.orDefault, Json.Fields.part,
      Json.text?]
  | some kind =>
    simp [plainArtifact, Artifact.decode?, Json.record, Json.entry?, Json.fields?, Json.part?,
      Json.Fields.required, Json.Fields.optional, Json.Fields.orDefault, Json.Fields.part,
      Json.text?, Json.optional?]

/-- Lists and maps are taken as they are, and so is everything if no type is asked for. -/
theorem eq_ofJson_of_coerce? {j : Json} {t : ValueType} {v : Value} (coerced : coerce? j t = some v)
    (whole : t = .any ∨ t = .list ∨ t = .map) : v = ofJson j := by
  rcases whole with rfl | rfl | rfl
  · exact (Option.some.inj coerced).symm
  · simp only [coerce?] at coerced
    split at coerced
    next => exact (Option.some.inj coerced).symm
    next => cases coerced
  · simp only [coerce?] at coerced
    split at coerced
    next => exact (Option.some.inj coerced).symm
    next => cases coerced

theorem isOrdered_of_coerce? {j : Json} {t : ValueType} {v : Value} (coerced : coerce? j t = some v) :
    v.IsOrdered := by
  by_cases whole : t = .any ∨ t = .list ∨ t = .map
  · rw [eq_ofJson_of_coerce? coerced whole]
    exact isOrdered_ofJson j
  -- Values of the other types have no maps in them.
  · have type := type_eq_of_coerce? coerced (fun any => whole (.inl any))
    cases v with
    | list => exact absurd (.inr (.inl type.symm)) whole
    | map => exact absurd (.inr (.inr type.symm)) whole
    | _ => trivial

/-- What a document has been coerced to comes out again of its own plain document. -/
theorem coerce?_toJson {j : Json} {t : ValueType} {v : Value} (coerced : coerce? j t = some v)
    (finite : v.IsFinite) : coerce? v.toJson t = some v := by
  by_cases whole : t = .any ∨ t = .list ∨ t = .map
  · have taken := eq_ofJson_of_coerce? coerced whole
    have again : ofJson v.toJson = v := by
      rw [taken] at finite ⊢
      exact ofJson_toJson_ofJson j finite
    have type (concrete : t ≠ .any) := type_eq_of_coerce? coerced concrete
    rcases whole with rfl | rfl | rfl
    · exact congrArg some again
    · cases v with
      | list items => exact congrArg some again
      | _ => cases type (by decide)
    · cases v with
      | map entries => exact congrArg some again
      | _ => cases type (by decide)
  · have type := type_eq_of_coerce? coerced (fun any => whole (.inl any))
    subst type
    cases v with
    | null => exact absurd (.inl rfl) whole
    | bool b => rfl
    | integer n =>
      simp only [Value.type, coerce?, coerceInteger?, toJson, Json.int, Json.word?_toInt,
        Option.map_some]
    | number x =>
      have digits : x.isFinite = true := finite
      rw [toJson, Json.double, if_pos digits]
      rfl
    | string s => rfl
    | list => exact absurd (.inr (.inl rfl)) whole
    | map => exact absurd (.inr (.inr rfl)) whole
    | artifact ref =>
      have parts := decode?_plainArtifact ref
      simp only [Value.type, coerce?, coerceArtifact?, toJson, plainArtifact, Json.record] at parts ⊢
      rw [parts, Option.map_some]

/-- A number that is not finite can only be given as a text. -/
theorem eq_text_of_coerce? {j : Json} (proper : j.IsProper) {t : ValueType} {v : Value}
    (coerced : coerce? j t = some v) (infinite : ¬ v.IsFinite) :
    t = .number ∧ (∃ s, j = .text s) ∧ v.toJson = .null := by
  by_cases whole : t = .any ∨ t = .list ∨ t = .map
  · rw [eq_ofJson_of_coerce? coerced whole] at infinite
    exact absurd (isFinite_ofJson j proper) infinite
  · have type := type_eq_of_coerce? coerced (fun any => whole (.inl any))
    cases v with
    | number x =>
      have digitless : ¬ x.isFinite = true := infinite
      subst type
      refine ⟨rfl, ?_, by rw [toJson, Json.double, if_neg digitless]⟩
      cases j with
      | text s => exact ⟨s, rfl⟩
      | number n =>
        cases n with
        | int i =>
          obtain ⟨low, high⟩ := proper
          cases coerced
          exact absurd (Double.isFinite_ofInt (by omega)) digitless
        | double y =>
          cases coerced
          exact absurd proper digitless
      | _ => cases coerced
    | list => exact absurd (.inr (.inl type.symm)) whole
    | map => exact absurd (.inr (.inr type.symm)) whole
    | _ => exact absurd trivial infinite

theorem toJson_eq_null {v : Value} (finite : v.IsFinite) : v.toJson = .null ↔ v.isNull = true := by
  cases v with
  | number x =>
    have digits : x.isFinite = true := finite
    simp [toJson, Json.double, digits, isNull]
  | _ => simp [toJson, isNull, plainArtifact, Json.record, Json.int]

end Value

end Printworks
