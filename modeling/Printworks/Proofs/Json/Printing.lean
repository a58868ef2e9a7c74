import Printworks.Proofs.Decimal.Writing
import Printworks.Proofs.Json.ReadBack

/-!
# Texts of documents tell them apart

The compact text of a document determines it, as long as all its doubles are finite. The argument
does not go through the reader, which takes some of what is printed for other numbers. A text says
with its first character what kind of document it is of, and a document ends where a comma or a
closing bracket follows, so that no text of a document is the beginning of that of another one.
-/

namespace Printworks

/-! ### Numbers -/

/-- A text behind a minus sign, if it is that of a negative number. -/
def behindSign (negative : Bool) (body : List Char) : List Char :=
  if negative then '-' :: body else body

theorem behindSign_inj {a b : Bool} {body body' : List Char} (unsigned : body.head? ≠ some '-')
    (unsigned' : body'.head? ≠ some '-') (same : behindSign a body = behindSign b body') :
    a = b ∧ body = body' := by
  cases a with
  | false =>
    cases b with
    | false => exact ⟨rfl, same⟩
    | true =>
      have text : body = '-' :: body' := same
      rw [text] at unsigned
      exact absurd rfl unsigned
  | true =>
    cases b with
    | false =>
      have text : '-' :: body = body' := same
      rw [← text] at unsigned'
      exact absurd rfl unsigned'
    | true => exact ⟨rfl, (List.cons.inj same).2⟩

namespace Double

/-- The text of a double is that of its decimal, behind its sign. -/
theorem toList_text (x : Double) : ∃ body, x.text.toList = behindSign x.isNegative body ∧
    Decimal.IsFractional body ∧ Decimal.reading body = (x.shortest .toEven).value := by
  unfold text
  simp only [String.toList_ofList]
  by_cases places : x.isZero ∨
      (-5 ≤ (x.shortest .toEven).power ∧ (x.shortest .toEven).power < 16)
  · rw [if_pos places]
    exact ⟨_, rfl, Decimal.isFractional_positional _, Decimal.reading_positional _⟩
  · rw [if_neg places]
    exact ⟨_, rfl, Decimal.isFractional_scientific _ _, Decimal.reading_scientific _ _⟩

theorem text_inj {x y : Double} (finiteX : x.isFinite = true) (finiteY : y.isFinite = true)
    (same : x.text = y.text) : x = y := by
  obtain ⟨body, textX, fractional, readX⟩ := x.toList_text
  obtain ⟨body', textY, fractional', readY⟩ := y.toList_text
  rw [same, textY] at textX
  obtain ⟨sign, bodies⟩ := behindSign_inj fractional'.unsigned fractional.unsigned textX
  apply eq_of_payload sign.symm
  apply payload_eq_of_value finiteX finiteY
  rw [← readX, ← readY, bodies]

end Double

namespace JsonNumber

/-- Whether a number has digits. -/
def IsFinite : JsonNumber → Prop
  | int _ => True
  | double x => x.isFinite = true

/-- The text of an integer is that of its absolute value, behind its sign. -/
theorem toList_text_int (i : ℤ) :
    (int i).text.toList = behindSign (decide (i < 0)) (Nat.toDigits 10 i.natAbs) := by
  rw [text, Int.toString_eq_repr, Int.repr_eq_if]
  by_cases negative : i < 0
  · have abs : (-i).toNat = i.natAbs := by omega
    rw [if_neg (by omega), decide_eq_true negative, String.toList_append, Nat.toList_repr, abs]
    rfl
  · have abs : i.toNat = i.natAbs := by omega
    rw [if_pos (by omega), decide_eq_false negative, Nat.toList_repr, abs]
    rfl

theorem unsigned_digits {digits : List Char} (are : Decimal.AreDigits digits) :
    digits.head? ≠ some '-' := by
  intro head
  have member := List.mem_of_mem_head? head
  exact are.ne (d := '-') (by decide) '-' member rfl

/-- The text of a number has at least one character, and none that could end it. -/
theorem chars_text (n : JsonNumber) :
    n.text.toList ≠ [] ∧ ∀ c ∈ n.text.toList, Decimal.IsNumberChar c := by
  have behind {body : List Char} (some_ : body ≠ []) (chars : ∀ c ∈ body, Decimal.IsNumberChar c)
      (negative : Bool) :
      behindSign negative body ≠ [] ∧ ∀ c ∈ behindSign negative body, Decimal.IsNumberChar c := by
    cases negative with
    | false => exact ⟨some_, chars⟩
    | true =>
      constructor
      · exact List.cons_ne_nil _ _
      · intro c member
        rcases List.mem_cons.mp member with rfl | member
        · decide
        · exact chars c member
  cases n with
  | int i =>
    rw [toList_text_int]
    exact behind Nat.toDigits_ne_nil (Decimal.areDigits_toDigits _).number _
  | double x =>
    obtain ⟨body, written, fractional, -⟩ := x.toList_text
    have some_ : body ≠ [] := by
      rintro rfl
      rcases fractional.marked with point | power
      · cases point
      · cases power
    rw [text, written]
    exact behind some_ fractional.chars _

/-- No integer is written like a double: it has neither a point nor a power of ten. -/
theorem text_int_ne_double (i : ℤ) (x : Double) : (int i).text ≠ (double x).text := by
  intro same
  obtain ⟨body, written, fractional, -⟩ := x.toList_text
  have digits := Decimal.areDigits_toDigits i.natAbs
  have texts := toList_text_int i
  rw [same, text, written] at texts
  obtain ⟨-, rfl⟩ := behindSign_inj fractional.unsigned (unsigned_digits digits) texts
  rcases fractional.marked with point | power
  · exact digits.ne (d := '.') (by decide) '.' point rfl
  · exact digits.ne (d := 'e') (by decide) 'e' power rfl

theorem text_inj {m n : JsonNumber} (finiteM : m.IsFinite) (finiteN : n.IsFinite)
    (same : m.text = n.text) : m = n := by
  match m, n with
  | int i, int j =>
    have texts := toList_text_int i
    rw [same, toList_text_int] at texts
    obtain ⟨sign, digits⟩ := behindSign_inj (unsigned_digits (Decimal.areDigits_toDigits _))
      (unsigned_digits (Decimal.areDigits_toDigits _)) texts
    have abs : j.natAbs = i.natAbs := by
      rw [← Nat.ofDigitChars_ten_toDigits (n := j.natAbs), digits, Nat.ofDigitChars_ten_toDigits]
    rw [decide_eq_decide] at sign
    have equal : i = j := by omega
    rw [equal]
  | double x, double y => rw [Double.text_inj finiteM finiteN same]
  | int i, double x => exact absurd same (text_int_ne_double i x)
  | double x, int i => exact absurd same.symm (text_int_ne_double i x)

end JsonNumber

namespace Json

/-! ### Documents -/

mutual

/-- Whether all numbers of a document have digits. -/
def IsFinite : Json → Prop
  | number n => n.IsFinite
  | array items => AreFinite items
  | object entries => AreFiniteEntries entries
  | _ => True

def AreFinite : List Json → Prop
  | [] => True
  | item :: rest => item.IsFinite ∧ AreFinite rest

def AreFiniteEntries : List (String × Json) → Prop
  | [] => True
  | (_, item) :: rest => item.IsFinite ∧ AreFiniteEntries rest

end

theorem areFinite_iff {items : List Json} : AreFinite items ↔ ∀ item ∈ items, item.IsFinite := by
  induction items with
  | nil => simp [AreFinite]
  | cons item rest ih => simp [AreFinite, ih]

theorem areFiniteEntries_iff {entries : List (String × Json)} :
    AreFiniteEntries entries ↔ ∀ entry ∈ entries, entry.2.IsFinite := by
  induction entries with
  | nil => simp [AreFiniteEntries]
  | cons entry rest ih => simp [AreFiniteEntries, ih]

/-- What is no finite number is not written as one. -/
theorem isFinite_double (x : Double) : (double x).IsFinite := by
  unfold double
  split
  next finite => exact finite
  next => trivial

/-- What a document is, apart from its parts. -/
inductive Form where
  | null
  | bool (b : Bool)
  | number
  | text
  | array
  | object

def form (j : Json) : Form :=
  match j with
  | null => .null
  | bool b => .bool b
  | number _ => .number
  | text _ => .text
  | array _ => .array
  | object _ => .object

/-- The form of the documents whose text begins with a character. -/
def Form.ofChar (c : Char) : Form :=
  match c with
  | 'n' => .null
  | 't' => .bool true
  | 'f' => .bool false
  | '"' => .text
  | '[' => .array
  | '\x7b' => .object
  | _ => .number

theorem Form.ofChar_number {c : Char} (number : Decimal.IsNumberChar c) :
    Form.ofChar c = .number := by
  unfold ofChar
  -- None of the characters that stand for other forms stands in a number.
  split <;> first | rfl | exact absurd number (by decide)

/-- A text begins with a character that tells its form, and which closes nothing. -/
theorem chars_eq_cons (j : Json) :
    ∃ c rest, j.chars = c :: rest ∧ Form.ofChar c = j.form ∧ c ≠ ']' ∧ c ≠ '\x7d' := by
  cases j with
  | null => exact ⟨'n', ['u', 'l', 'l'], by simp [chars, compact], rfl, by decide, by decide⟩
  | bool b =>
    cases b with
    | true => exact ⟨'t', ['r', 'u', 'e'], by simp [chars, compact], rfl, by decide, by decide⟩
    | false =>
      exact ⟨'f', ['a', 'l', 's', 'e'], by simp [chars, compact], rfl, by decide, by decide⟩
  | number n =>
    obtain ⟨some_, all⟩ := n.chars_text
    obtain ⟨c, rest, text⟩ := List.exists_cons_of_ne_nil some_
    have first := all c (by rw [text]; exact List.mem_cons_self)
    refine ⟨c, rest, text, Form.ofChar_number first, ?_, ?_⟩
    · rintro rfl
      exact absurd first (by decide)
    · rintro rfl
      exact absurd first (by decide)
  | text s => exact ⟨'"', quotedTail s, toList_jsonQuoted s, rfl, by decide, by decide⟩
  | array items => exact ⟨'[', itemsTail items, chars_array items, rfl, by decide, by decide⟩
  | object entries =>
    exact ⟨'\x7b', entriesTail entries, chars_object entries, rfl, by decide, by decide⟩

theorem form_eq_of_chars {j k : Json} {r r' : List Char} (same : j.chars ++ r = k.chars ++ r') :
    j.form = k.form := by
  obtain ⟨c, tail, text, form, -⟩ := j.chars_eq_cons
  obtain ⟨c', tail', text', form', -⟩ := k.chars_eq_cons
  rw [text, text'] at same
  rw [← form, ← form', (List.cons.inj same).1]

/-- Whether a text may follow that of a document. -/
def Follows (r : List Char) : Prop := ∀ c ∈ r.head?, ¬ Decimal.IsNumberChar c

theorem follows_nil : Follows [] := by
  intro c head
  cases head

theorem follows_cons {c : Char} (other : ¬ Decimal.IsNumberChar c) (r : List Char) :
    Follows (c :: r) := by
  intro d head
  cases head
  exact other

/-- A number ends where a character stands that is in none. -/
theorem number_split {m n : JsonNumber} {r r' : List Char} (after : Follows r)
    (after' : Follows r') (same : (number m).chars ++ r = (number n).chars ++ r') :
    m.text = n.text ∧ r = r' := by
  have part {n : JsonNumber} {r : List Char} (after : Follows r) :
      (n.text.toList ++ r).takeWhile (fun c => decide (Decimal.IsNumberChar c)) =
        n.text.toList := by
    rw [List.takeWhile_append_of_pos (fun c member => decide_eq_true (n.chars_text.2 c member))]
    cases r with
    | nil => simp
    | cons c r => simp [after c rfl]
  have both : m.text.toList ++ r = n.text.toList ++ r' := same
  have texts := part (n := m) after
  rw [both, part after'] at texts
  rw [texts] at both
  exact ⟨String.toList_inj.mp texts.symm, List.append_cancel_left both⟩

/-- A text between quotes ends with the quote behind it. -/
theorem quoted_split {s t : String} {r r' : List Char}
    (same : quotedTail s ++ r = quotedTail t ++ r') : s = t ∧ r = r' := by
  have read := readText?_quotedTail s r
  rw [same, readText?_quotedTail] at read
  cases read
  exact ⟨rfl, rfl⟩

/-- What stands behind the first item of an array. -/
def moreItems : List Json → List Char
  | [] => [']']
  | item :: rest => ',' :: itemsTail (item :: rest)

def moreEntries : List (String × Json) → List Char
  | [] => ['\x7d']
  | entry :: rest => ',' :: entriesTail (entry :: rest)

theorem itemsTail_eq (item : Json) (rest : List Json) :
    itemsTail (item :: rest) = item.chars ++ moreItems rest := by
  cases rest <;> rfl

theorem entriesTail_eq (key : String) (item : Json) (rest : List (String × Json)) :
    entriesTail ((key, item) :: rest) =
      '"' :: (quotedTail key ++ ':' :: (item.chars ++ moreEntries rest)) := by
  cases rest <;> simp [entriesTail, moreEntries]

theorem follows_moreItems (items : List Json) (r : List Char) : Follows (moreItems items ++ r) := by
  cases items with
  | nil => exact follows_cons (by decide) _
  | cons item rest => exact follows_cons (by decide) _

theorem follows_moreEntries (entries : List (String × Json)) (r : List Char) :
    Follows (moreEntries entries ++ r) := by
  cases entries with
  | nil => exact follows_cons (by decide) _
  | cons entry rest => exact follows_cons (by decide) _

/-- The items of an array are not taken for its end. -/
theorem itemsTail_nil_ne (item : Json) (rest : List Json) (r r' : List Char) :
    itemsTail [] ++ r ≠ itemsTail (item :: rest) ++ r' := by
  intro same
  obtain ⟨c, tail, text, -, open_, -⟩ := item.chars_eq_cons
  rw [itemsTail_eq, text] at same
  exact open_ (List.cons.inj same).1.symm

theorem entriesTail_nil_ne (key : String) (item : Json) (rest : List (String × Json))
    (r r' : List Char) : entriesTail [] ++ r ≠ entriesTail ((key, item) :: rest) ++ r' := by
  intro same
  rw [entriesTail_eq] at same
  exact absurd (List.cons.inj same).1 (by decide)

mutual

/-- The text of a document, whatever follows it, tells the document and what follows. -/
theorem chars_split (j k : Json) (finiteJ : j.IsFinite) (finiteK : k.IsFinite) {r r' : List Char}
    (after : Follows r) (after' : Follows r') (same : j.chars ++ r = k.chars ++ r') :
    j = k ∧ r = r' := by
  have form := form_eq_of_chars same
  -- The first characters show the forms to be the same. Each form tells where its texts end.
  match j with
  | null =>
    cases k with
    | null => exact ⟨rfl, List.append_cancel_left same⟩
    | _ => cases form
  | bool b =>
    cases k with
    | bool b' =>
      cases form
      exact ⟨rfl, List.append_cancel_left same⟩
    | _ => cases form
  | number m =>
    cases k with
    | number n =>
      obtain ⟨texts, rests⟩ := number_split after after' same
      exact ⟨congrArg number (JsonNumber.text_inj finiteJ finiteK texts), rests⟩
    | _ => cases form
  | text s =>
    cases k with
    | text t =>
      simp only [chars, compact, toList_jsonQuoted, List.cons_append, List.cons.injEq] at same
      obtain ⟨rfl, rests⟩ := quoted_split same.2
      exact ⟨rfl, rests⟩
    | _ => cases form
  | array js =>
    cases k with
    | array ks =>
      rw [chars_array, chars_array] at same
      obtain ⟨rfl, rests⟩ := items_split js ks finiteJ finiteK (List.cons.inj same).2
      exact ⟨rfl, rests⟩
    | _ => cases form
  | object js =>
    cases k with
    | object ks =>
      rw [chars_object, chars_object] at same
      obtain ⟨rfl, rests⟩ := entries_split js ks finiteJ finiteK (List.cons.inj same).2
      exact ⟨rfl, rests⟩
    | _ => cases form

theorem items_split (js ks : List Json) (finiteJ : AreFinite js) (finiteK : AreFinite ks)
    {r r' : List Char} (same : itemsTail js ++ r = itemsTail ks ++ r') : js = ks ∧ r = r' := by
  match js, ks with
  | [], [] => exact ⟨rfl, List.append_cancel_left same⟩
  | [], k :: ks => exact absurd same (itemsTail_nil_ne k ks r r')
  | j :: js, [] => exact absurd same.symm (itemsTail_nil_ne j js r' r)
  | j :: js, k :: ks =>
    rw [itemsTail_eq, itemsTail_eq, List.append_assoc, List.append_assoc] at same
    obtain ⟨rfl, rests⟩ := chars_split j k finiteJ.1 finiteK.1 (follows_moreItems js r)
      (follows_moreItems ks r') same
    -- A comma says that more items come, and a bracket that none does.
    match js, ks with
    | [], [] => exact ⟨rfl, List.append_cancel_left rests⟩
    | [], _ :: _ => exact absurd (List.cons.inj rests).1 (by decide)
    | _ :: _, [] => exact absurd (List.cons.inj rests).1 (by decide)
    | next :: js, next' :: ks =>
      obtain ⟨more, ends⟩ := items_split (next :: js) (next' :: ks) finiteJ.2 finiteK.2
        (List.cons.inj rests).2
      exact ⟨congrArg (j :: ·) more, ends⟩

theorem entries_split (js ks : List (String × Json)) (finiteJ : AreFiniteEntries js)
    (finiteK : AreFiniteEntries ks) {r r' : List Char}
    (same : entriesTail js ++ r = entriesTail ks ++ r') : js = ks ∧ r = r' := by
  match js, ks with
  | [], [] => exact ⟨rfl, List.append_cancel_left same⟩
  | [], (key, k) :: ks => exact absurd same (entriesTail_nil_ne key k ks r r')
  | (key, j) :: js, [] => exact absurd same.symm (entriesTail_nil_ne key j js r' r)
  | (key, j) :: js, (key', k) :: ks =>
    rw [entriesTail_eq, entriesTail_eq] at same
    simp only [List.cons_append, List.append_assoc, List.cons.injEq, true_and] at same
    obtain ⟨rfl, values⟩ := quoted_split same
    obtain ⟨rfl, rests⟩ := chars_split j k finiteJ.1 finiteK.1 (follows_moreEntries js r)
      (follows_moreEntries ks r') (List.cons.inj values).2
    match js, ks with
    | [], [] => exact ⟨rfl, List.append_cancel_left rests⟩
    | [], _ :: _ => exact absurd (List.cons.inj rests).1 (by decide)
    | _ :: _, [] => exact absurd (List.cons.inj rests).1 (by decide)
    | next :: js, next' :: ks =>
      obtain ⟨more, ends⟩ := entries_split (next :: js) (next' :: ks) finiteJ.2 finiteK.2
        (List.cons.inj rests).2
      exact ⟨congrArg ((key, j) :: ·) more, ends⟩

end

/-- Documents with one text are equal if their numbers have digits. -/
theorem compact_inj {j k : Json} (finiteJ : j.IsFinite) (finiteK : k.IsFinite)
    (same : j.compact = k.compact) : j = k := by
  have texts : j.chars ++ [] = k.chars ++ [] := by rw [chars, chars, same]
  exact (chars_split j k finiteJ finiteK follows_nil follows_nil texts).1

end Json

end Printworks
