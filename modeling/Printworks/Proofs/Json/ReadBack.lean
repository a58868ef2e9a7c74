import Printworks.Json.Printer
import Printworks.Json.Reader

/-!
# Reading back what was printed

The compact text of a document without numbers is read as that document, provided that its brackets
are not nested too deep, and refused otherwise. Nothing is assumed about what follows the text.

The induction is on the document. Fuel is measured against the length of the text: every bracket and
every comma pays for the calls that it leads to.
-/

namespace Printworks.Json

/-! ### Texts -/

/-- A control is written with a short escape or by its number, and both stand for it. -/
private theorem control_escaped : ∀ n < 32,
    let written := escapedChar (Char.ofNat n)
    let place (i : Nat) := written.getD i ' '
    (written = ['\\', place 1] ∧ namedEscape? (place 1) = some (Char.ofNat n)) ∨
      (written = ['\\', 'u', '0', '0', place 4, place 5] ∧
        hexUnit? '0' '0' (place 4) (place 5) = some n) := by
  decide

private theorem readText?_named {c e : Char} (named : namedEscape? e = some c)
    (rest taken : List Char) :
    readText? ('\\' :: e :: rest) taken = readText? rest (c :: taken) := by
  have ne : e ≠ 'u' := by rintro rfl; cases named
  rw [readText?]
  · simp [named]
  · intro _ _ _ _ _ eq
    exact absurd eq ne

private theorem readText?_unit {a b c d : Char} {n : Nat} (unit : hexUnit? a b c d = some n)
    (small : n < 32) (rest taken : List Char) :
    readText? ('\\' :: 'u' :: a :: b :: c :: d :: rest) taken =
      readText? rest (Char.ofNat n :: taken) := by
  -- A control is no half of a surrogate pair.
  have low : Text.isLowHalf n = false := by simp [Text.isLowHalf]; omega
  have high : Text.isHighHalf n = false := by simp [Text.isHighHalf]; omega
  simp [readText?, unit, low, high]

private theorem readText?_plain {c : Char} (large : ¬ c.toNat < 32) (quote : c ≠ '"')
    (slash : c ≠ '\\') (rest taken : List Char) :
    readText? (c :: rest) taken = readText? rest (c :: taken) := by
  rw [readText?]
  · simp [large, slash]
  all_goals simp [quote, slash]

theorem readText?_escapedChar (c : Char) (rest taken : List Char) :
    readText? (escapedChar c ++ rest) taken = readText? rest (c :: taken) := by
  by_cases control : c.toNat < 32
  -- There are 32 controls, and all of them have been looked at.
  · have known := control_escaped c.toNat control
    rw [Char.ofNat_toNat] at known
    obtain ⟨written, named⟩ | ⟨written, unit⟩ := known
    · rw [written]
      exact readText?_named named rest taken
    · rw [written]
      have read := readText?_unit unit control rest taken
      rwa [Char.ofNat_toNat] at read
  · by_cases quote : c = '"'
    · subst quote
      exact readText?_named rfl rest taken
    · by_cases slash : c = '\\'
      · subst slash
        exact readText?_named rfl rest taken
      · have short : shortEscape? c = none := by
          unfold shortEscape?
          split <;> simp_all
        have written : escapedChar c = [c] := by simp [escapedChar, short, control]
        rw [written]
        exact readText?_plain control quote slash rest taken

/-- Escaped characters are read up to the quote behind them. -/
theorem readText?_escaped (cs rest taken : List Char) :
    readText? (cs.flatMap escapedChar ++ '"' :: rest) taken =
      some (String.ofList (taken.reverse ++ cs), rest) := by
  induction cs generalizing taken with
  | nil => simp [readText?]
  | cons c cs ih =>
    rw [List.flatMap_cons, List.append_assoc, readText?_escapedChar, ih]
    simp

/-- The characters between the quotes, and the closing one. -/
def quotedTail (s : String) : List Char := s.toList.flatMap escapedChar ++ ['"']

theorem toList_jsonQuoted (s : String) : (jsonQuoted s).toList = '"' :: quotedTail s := by
  simp [jsonQuoted, quotedTail]

theorem readText?_quotedTail (s : String) (rest : List Char) :
    readText? (quotedTail s ++ rest) [] = some (s, rest) := by
  have read := readText?_escaped s.toList rest []
  simpa [quotedTail] using read

/-! ### Documents -/

mutual

/-- Whether no number stands in a document. -/
def IsNumberless : Json → Prop
  | number _ => False
  | array items => AreNumberless items
  | object entries => AreNumberlessEntries entries
  | _ => True

def AreNumberless : List Json → Prop
  | [] => True
  | item :: rest => item.IsNumberless ∧ AreNumberless rest

def AreNumberlessEntries : List (String × Json) → Prop
  | [] => True
  | (_, item) :: rest => item.IsNumberless ∧ AreNumberlessEntries rest

end

mutual

/-- How many brackets are open at once at most. -/
def nesting : Json → Nat
  | array items => nestingItems items + 1
  | object entries => nestingEntries entries + 1
  | _ => 0

def nestingItems : List Json → Nat
  | [] => 0
  | item :: rest => max item.nesting (nestingItems rest)

def nestingEntries : List (String × Json) → Nat
  | [] => 0
  | (_, item) :: rest => max item.nesting (nestingEntries rest)

end

/-- The characters of the compact text of a document. -/
abbrev chars (j : Json) : List Char := j.compact.toList

/-- The text of the items of an array after the opening bracket. -/
def itemsTail : List Json → List Char
  | [] => [']']
  | [item] => item.chars ++ [']']
  | item :: rest => item.chars ++ ',' :: itemsTail rest

/-- The text of the entries of an object after the opening brace. -/
def entriesTail : List (String × Json) → List Char
  | [] => ['\x7d']
  | [(key, item)] => '"' :: quotedTail key ++ ':' :: item.chars ++ ['\x7d']
  | (key, item) :: rest => '"' :: quotedTail key ++ ':' :: item.chars ++ ',' :: entriesTail rest

private theorem intercalate_items (items : List Json) :
    [','].intercalate ((compactItems items).map String.toList) ++ [']'] = itemsTail items := by
  induction items with
  | nil => rfl
  | cons item rest ih =>
    cases rest with
    | nil => simp [compactItems, itemsTail]
    | cons next rest =>
      rw [itemsTail, ← ih]
      · simp [compactItems]
      · simp

private theorem intercalate_entries (entries : List (String × Json)) :
    [','].intercalate ((compactEntries entries).map String.toList) ++ ['\x7d'] =
      entriesTail entries := by
  induction entries with
  | nil => rfl
  | cons entry rest ih =>
    obtain ⟨key, item⟩ := entry
    cases rest with
    | nil => simp [compactEntries, entriesTail, toList_jsonQuoted]
    | cons next rest =>
      rw [entriesTail, ← ih]
      · simp [compactEntries, toList_jsonQuoted]
      · simp

theorem chars_array (items : List Json) : (array items).chars = '[' :: itemsTail items := by
  simp [chars, compact, String.toList_intercalate, ← intercalate_items]

theorem chars_object (entries : List (String × Json)) :
    (object entries).chars = '\x7b' :: entriesTail entries := by
  simp [chars, compact, String.toList_intercalate, ← intercalate_entries]

theorem skipGap_cons {c : Char} (solid : isGap c = false) (rest : List Char) :
    skipGap (c :: rest) = c :: rest := by
  simp [skipGap, solid]

/-- The text of a document begins with no gap and closes nothing. -/
theorem chars_head (j : Json) (numberless : j.IsNumberless) :
    ∃ c rest, j.chars = c :: rest ∧ isGap c = false ∧ c ≠ ']' := by
  cases j with
  | null => exact ⟨'n', ['u', 'l', 'l'], by simp [chars, compact], by decide, by decide⟩
  | bool b =>
    cases b with
    | true => exact ⟨'t', ['r', 'u', 'e'], by simp [chars, compact], by decide, by decide⟩
    | false => exact ⟨'f', ['a', 'l', 's', 'e'], by simp [chars, compact], by decide, by decide⟩
  | number n => exact numberless.elim
  | text s => exact ⟨'"', quotedTail s, toList_jsonQuoted s, by decide, by decide⟩
  | array items => exact ⟨'[', itemsTail items, chars_array items, by decide, by decide⟩
  | object entries => exact ⟨'\x7b', entriesTail entries, chars_object entries, by decide, by decide⟩

theorem itemsTail_cons (item : Json) (rest : List Json) :
    ∃ tail, itemsTail (item :: rest) = item.chars ++ tail := by
  cases rest with
  | nil => exact ⟨[']'], rfl⟩
  | cons next rest => exact ⟨',' :: itemsTail (next :: rest), rfl⟩

theorem entriesTail_cons (key : String) (item : Json) (rest : List (String × Json)) :
    ∃ tail, entriesTail ((key, item) :: rest) =
      '"' :: quotedTail key ++ ':' :: item.chars ++ tail := by
  cases rest with
  | nil => exact ⟨['\x7d'], rfl⟩
  | cons next rest => exact ⟨',' :: entriesTail (next :: rest), by simp [entriesTail]⟩

theorem readName?_quoted (key : String) (rest : List Char) :
    readName? ('"' :: quotedTail key ++ ':' :: rest) = some (key, rest) := by
  rw [readName?, List.cons_append, skipGap_cons (by decide)]
  simp only [readText?_quotedTail]
  rw [skipGap_cons (by decide)]
  rfl

/-- What begins no closing bracket after an opening one is a list of items. -/
theorem readValue?_items {c : Char} (solid : isGap c = false) (opened : c ≠ ']') (fuel depth : Nat)
    (cs : List Char) :
    readValue? (fuel + 1) (depth + 1) ('[' :: c :: cs) =
      (readItems? fuel depth (c :: cs)).map (fun r => (array r.1, r.2)) := by
  rw [readValue?, skipGap_cons (by decide)]
  simp only [skipGap_cons solid]
  split
  next eq => exact absurd (List.cons.inj eq).1 opened
  next => rfl

/-- What begins no closing brace after an opening one is a list of entries. -/
theorem readValue?_entries (fuel depth : Nat) (cs : List Char) :
    readValue? (fuel + 1) (depth + 1) ('\x7b' :: '"' :: cs) =
      (readEntries? fuel depth ('"' :: cs)).map (fun r => (object r.1, r.2)) := by
  rw [readValue?, skipGap_cons (by decide)]
  simp only [skipGap_cons (show isGap '"' = false by decide)]
  rfl

/-- What is written in a text that the fuel covers is read back if there is room for its
brackets. -/
structure ReadsBack (fuel : Nat) : Prop where
  value (j : Json) (depth : Nat) (rest : List Char) : j.IsNumberless → 2 * j.chars.length ≤ fuel →
    readValue? fuel depth (j.chars ++ rest) = if j.nesting ≤ depth then some (j, rest) else none
  items (items : List Json) (depth : Nat) (rest : List Char) : items ≠ [] → AreNumberless items →
    2 * (itemsTail items).length ≤ fuel →
    readItems? fuel depth (itemsTail items ++ rest) =
      if nestingItems items ≤ depth then some (items, rest) else none
  entries (entries : List (String × Json)) (depth : Nat) (rest : List Char) : entries ≠ [] →
    AreNumberlessEntries entries → 2 * (entriesTail entries).length ≤ fuel →
    readEntries? fuel depth (entriesTail entries ++ rest) =
      if nestingEntries entries ≤ depth then some (entries, rest) else none

namespace ReadsBack

variable {fuel : Nat}

theorem array_step (h : ReadsBack fuel) (items : List Json) (depth : Nat) (rest : List Char)
    (numberless : AreNumberless items) (enough : 2 * (array items).chars.length ≤ fuel + 1) :
    readValue? (fuel + 1) depth ((array items).chars ++ rest) =
      if (array items).nesting ≤ depth then some (array items, rest) else none := by
  rw [chars_array, List.length_cons] at enough
  rw [chars_array, List.cons_append, nesting]
  cases depth with
  | zero => simp [readValue?, skipGap, isGap]
  | succ depth =>
    cases items with
    | nil => simp [itemsTail, readValue?, skipGap, isGap, nestingItems]
    | cons item more =>
      have read := h.items (item :: more) depth rest (by simp) numberless (by omega)
      obtain ⟨tail, split⟩ := itemsTail_cons item more
      -- The reader looks ahead for a closing bracket, which the first item does not begin with.
      obtain ⟨c, cs, head, solid, opened⟩ := chars_head item numberless.1
      rw [split, head, List.cons_append, List.cons_append] at read ⊢
      rw [readValue?_items solid opened, read]
      by_cases room : nestingItems (item :: more) ≤ depth
      · simp [room]
      · simp [room]

theorem object_step (h : ReadsBack fuel) (entries : List (String × Json)) (depth : Nat)
    (rest : List Char) (numberless : AreNumberlessEntries entries)
    (enough : 2 * (object entries).chars.length ≤ fuel + 1) :
    readValue? (fuel + 1) depth ((object entries).chars ++ rest) =
      if (object entries).nesting ≤ depth then some (object entries, rest) else none := by
  rw [chars_object, List.length_cons] at enough
  rw [chars_object, List.cons_append, nesting]
  cases depth with
  | zero => simp [readValue?, skipGap, isGap]
  | succ depth =>
    cases entries with
    | nil => simp [entriesTail, readValue?, skipGap, isGap, nestingEntries]
    | cons entry more =>
      obtain ⟨key, item⟩ := entry
      have read := h.entries ((key, item) :: more) depth rest (by simp) numberless (by omega)
      obtain ⟨tail, split⟩ := entriesTail_cons key item more
      rw [split, List.cons_append, List.cons_append, List.cons_append] at read ⊢
      rw [readValue?_entries, read]
      by_cases room : nestingEntries ((key, item) :: more) ≤ depth
      · simp [room]
      · simp [room]

theorem value_step (h : ReadsBack fuel) (j : Json) (depth : Nat) (rest : List Char)
    (numberless : j.IsNumberless) (enough : 2 * j.chars.length ≤ fuel + 1) :
    readValue? (fuel + 1) depth (j.chars ++ rest) =
      if j.nesting ≤ depth then some (j, rest) else none := by
  cases j with
  | null => simp [chars, compact, readValue?, skipGap, isGap, dropWord?, nesting]; rfl
  | bool b =>
    cases b <;> (simp [chars, compact, readValue?, skipGap, isGap, dropWord?, nesting]; rfl)
  | number n => exact numberless.elim
  | text s =>
    rw [show (text s).chars = '"' :: quotedTail s from toList_jsonQuoted s, List.cons_append,
      readValue?, skipGap_cons (by decide)]
    simp [readText?_quotedTail, nesting]
  | array items => exact h.array_step items depth rest numberless enough
  | object entries => exact h.object_step entries depth rest numberless enough

theorem items_step (h : ReadsBack fuel) (items : List Json) (depth : Nat) (rest : List Char)
    (some_ : items ≠ []) (numberless : AreNumberless items)
    (enough : 2 * (itemsTail items).length ≤ fuel + 1) :
    readItems? (fuel + 1) depth (itemsTail items ++ rest) =
      if nestingItems items ≤ depth then some (items, rest) else none := by
  match items with
  | [] => exact absurd rfl some_
  | [item] =>
    simp only [itemsTail, List.length_append, List.length_singleton] at enough
    rw [itemsTail, List.append_assoc, readItems?, h.value item depth _ numberless.1 (by omega)]
    by_cases room : item.nesting ≤ depth
    · simp [room, nestingItems, skipGap, isGap]
    · simp [room, nestingItems]
  | item :: next :: more =>
    simp only [itemsTail, List.length_append, List.length_cons] at enough
    -- The comma pays for the call that reads the other items.
    have others := h.items (next :: more) depth rest (by simp) numberless.2 (by omega)
    have text : itemsTail (item :: next :: more) ++ rest =
        item.chars ++ ',' :: (itemsTail (next :: more) ++ rest) := by
      simp [itemsTail]
    rw [text, readItems?, h.value item depth _ numberless.1 (by omega), nestingItems]
    by_cases room : item.nesting ≤ depth
    · simp only [room, if_true, skipGap_cons (show isGap ',' = false by decide)]
      rw [others]
      by_cases fits : nestingItems (next :: more) ≤ depth
      · simp [fits, Nat.max_le.mpr ⟨room, fits⟩]
      -- An item that is nested too deep is refused, and the whole list with it.
      · have full : ¬ max item.nesting (nestingItems (next :: more)) ≤ depth := by omega
        simp [fits, full]
    · have full : ¬ max item.nesting (nestingItems (next :: more)) ≤ depth := by omega
      simp [room, full]

theorem entries_step (h : ReadsBack fuel) (entries : List (String × Json)) (depth : Nat)
    (rest : List Char) (some_ : entries ≠ []) (numberless : AreNumberlessEntries entries)
    (enough : 2 * (entriesTail entries).length ≤ fuel + 1) :
    readEntries? (fuel + 1) depth (entriesTail entries ++ rest) =
      if nestingEntries entries ≤ depth then some (entries, rest) else none := by
  match entries with
  | [] => exact absurd rfl some_
  | [(key, item)] =>
    simp only [entriesTail, List.length_append, List.length_cons, List.length_nil] at enough
    have name := readName?_quoted key (item.chars ++ '\x7d' :: rest)
    simp only [entriesTail, List.append_assoc, List.cons_append, List.nil_append] at name ⊢
    rw [readEntries?, name]
    simp only
    rw [h.value item depth _ numberless.1 (by omega)]
    by_cases room : item.nesting ≤ depth
    · simp [room, nestingEntries, skipGap, isGap]
    · simp [room, nestingEntries]
  | (key, item) :: (other, next) :: more =>
    simp only [entriesTail, List.length_append, List.length_cons] at enough
    have others := h.entries ((other, next) :: more) depth rest (by simp) numberless.2 (by omega)
    have name := readName?_quoted key
      (item.chars ++ ',' :: (entriesTail ((other, next) :: more) ++ rest))
    have text : entriesTail ((key, item) :: (other, next) :: more) ++ rest =
        '"' :: quotedTail key ++ ':' :: (item.chars ++
          ',' :: (entriesTail ((other, next) :: more) ++ rest)) := by
      simp [entriesTail]
    rw [text, readEntries?, name, nestingEntries]
    simp only
    rw [h.value item depth _ numberless.1 (by omega)]
    by_cases room : item.nesting ≤ depth
    · simp only [room, if_true, skipGap_cons (show isGap ',' = false by decide)]
      rw [others]
      by_cases fits : nestingEntries ((other, next) :: more) ≤ depth
      · simp [fits, Nat.max_le.mpr ⟨room, fits⟩]
      · have full : ¬ max item.nesting (nestingEntries ((other, next) :: more)) ≤ depth := by omega
        simp [fits, full]
    · have full : ¬ max item.nesting (nestingEntries ((other, next) :: more)) ≤ depth := by omega
      simp [room, full]

end ReadsBack

theorem itemsTail_ne_nil (items : List Json) : itemsTail items ≠ [] := by
  match items with
  | [] => simp [itemsTail]
  | [_] => simp [itemsTail]
  | _ :: _ :: _ => simp [itemsTail]

theorem entriesTail_ne_nil (entries : List (String × Json)) : entriesTail entries ≠ [] := by
  match entries with
  | [] => simp [entriesTail]
  | [_] => simp [entriesTail]
  | _ :: _ :: _ => simp [entriesTail]

theorem readsBack (fuel : Nat) : ReadsBack fuel := by
  induction fuel with
  | zero =>
    -- Every text has a character, so that no fuel covers none.
    refine ⟨fun j _ _ numberless enough => ?_, fun items _ _ _ _ enough => ?_,
      fun entries _ _ _ _ enough => ?_⟩
    · obtain ⟨c, tail, head, -⟩ := chars_head j numberless
      simp [head] at enough
    · exact absurd (List.length_eq_zero_iff.mp (by omega)) (itemsTail_ne_nil items)
    · exact absurd (List.length_eq_zero_iff.mp (by omega)) (entriesTail_ne_nil entries)
  | succ fuel ih =>
    exact ⟨ih.value_step, ih.items_step, ih.entries_step⟩

/-- A text is read back as the document that it was written from, exactly if brackets are not nested
too deep in it. -/
theorem read?_compact (j : Json) (numberless : j.IsNumberless) :
    read? j.compact = if j.nesting ≤ depthLimit then some j else none := by
  have read := (readsBack (2 * j.chars.length + 2)).value j depthLimit [] numberless (by omega)
  rw [List.append_nil] at read
  unfold read?
  simp only [read]
  by_cases room : j.nesting ≤ depthLimit
  · simp [room, skipGap]
  · simp [room]

end Printworks.Json
