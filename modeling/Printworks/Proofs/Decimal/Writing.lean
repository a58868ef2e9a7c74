import Mathlib.Data.List.TakeWhile
import Printworks.Decimal.Writing
import Printworks.Proofs.Decimal.Shortest

/-!
# What the text of a decimal says

The number that a text says can be read off it, whether it has an exponent or not. So two decimals
with one text are one number, even if one of them was written with more zeros than the other.
-/

namespace Printworks.Decimal

/-! ### Reading -/

/-- The number that digits say, with a point among them or without one, times a power of ten. -/
def mantissaReading (cs : List Char) (power : ℤ) : ℚ :=
  let whole := cs.takeWhile (· != '.')
  let fraction := (cs.dropWhile (· != '.')).drop 1
  Nat.ofDigitChars 10 (whole ++ fraction) 0 * 10 ^ (power - fraction.length)

/-- The power of ten behind the letter that announces it. No text means none. -/
def powerReading (cs : List Char) : ℤ :=
  match cs with
  | '-' :: digits => -(Nat.ofDigitChars 10 digits 0 : ℤ)
  | '+' :: digits => Nat.ofDigitChars 10 digits 0
  | digits => Nat.ofDigitChars 10 digits 0

/-- The number that a text says, with an exponent or without one. -/
def reading (cs : List Char) : ℚ :=
  mantissaReading (cs.takeWhile (· != 'e')) (powerReading ((cs.dropWhile (· != 'e')).drop 1))

/-- The parts of a text before and behind the first place of a character. -/
theorem split_at {c : Char} {before : List Char} (free : ∀ x ∈ before, x ≠ c) (after : List Char) :
    (before ++ c :: after).takeWhile (· != c) = before ∧
      (before ++ c :: after).dropWhile (· != c) = c :: after := by
  have passed : ∀ x ∈ before, (x != c) = true := fun x member => bne_iff_ne.mpr (free x member)
  rw [List.takeWhile_append_of_pos passed, List.dropWhile_append_of_pos passed]
  simp

theorem split_none {c : Char} {cs : List Char} (free : ∀ x ∈ cs, x ≠ c) :
    cs.takeWhile (· != c) = cs ∧ cs.dropWhile (· != c) = [] := by
  have passed : ∀ x ∈ cs, (x != c) = true := fun x member => bne_iff_ne.mpr (free x member)
  exact ⟨List.takeWhile_eq_self_iff.mpr passed, List.dropWhile_eq_nil_iff.mpr passed⟩

theorem reading_plain {cs : List Char} (free : ∀ x ∈ cs, x ≠ 'e') :
    reading cs = mantissaReading cs 0 := by
  obtain ⟨before, behind⟩ := split_none free
  rw [reading, before, behind]
  rfl

theorem reading_power {cs : List Char} (free : ∀ x ∈ cs, x ≠ 'e') (power : List Char) :
    reading (cs ++ 'e' :: power) = mantissaReading cs (powerReading power) := by
  obtain ⟨before, behind⟩ := split_at free power
  rw [reading, before, behind]
  rfl

theorem mantissaReading_whole {cs : List Char} (free : ∀ x ∈ cs, x ≠ '.') (power : ℤ) :
    mantissaReading cs power = Nat.ofDigitChars 10 cs 0 * 10 ^ power := by
  obtain ⟨before, behind⟩ := split_none free
  simp [mantissaReading, before, behind]

theorem mantissaReading_fraction {whole : List Char} (free : ∀ x ∈ whole, x ≠ '.')
    (fraction : List Char) (power : ℤ) : mantissaReading (whole ++ '.' :: fraction) power =
      Nat.ofDigitChars 10 (whole ++ fraction) 0 * 10 ^ (power - fraction.length) := by
  obtain ⟨before, behind⟩ := split_at free fraction
  simp only [mantissaReading, before, behind, List.drop_one, List.tail_cons]

/-! ### Digits -/

/-- Whether a text has digits only. -/
def AreDigits (cs : List Char) : Prop := ∀ c ∈ cs, c.isDigit = true

theorem areDigits_toDigits (n : ℕ) : AreDigits (Nat.toDigits 10 n) :=
  fun _ member => Nat.isDigit_of_mem_toDigits (by decide) (by decide) member

theorem areDigits_zeros (n : ℕ) : AreDigits (List.replicate n '0') := by
  intro c member
  rw [(List.mem_replicate.mp member).2]
  decide

theorem AreDigits.append {cs ds : List Char} (first : AreDigits cs) (second : AreDigits ds) :
    AreDigits (cs ++ ds) := by
  intro c member
  rcases List.mem_append.mp member with here | there
  · exact first c here
  · exact second c there

theorem AreDigits.sublist {cs ds : List Char} (digits : AreDigits cs) (sub : ds.Sublist cs) :
    AreDigits ds :=
  fun c member => digits c (sub.subset member)

/-- A digit is neither a point nor a letter nor a sign. -/
theorem AreDigits.ne {cs : List Char} (digits : AreDigits cs) {d : Char}
    (other : d.isDigit = false) : ∀ c ∈ cs, c ≠ d := by
  rintro c member rfl
  rw [digits c member] at other
  cases other

/-! ### What is written -/

theorem reading_positional (d : Decimal) : reading d.positional = d.value := by
  have digits := areDigits_toDigits d.digits
  unfold positional value
  split
  next nonneg =>
    have whole := digits.append (areDigits_zeros d.exponent.toNat)
    have shape : Nat.toDigits 10 d.digits ++ List.replicate d.exponent.toNat '0' ++ ['.', '0'] =
        (Nat.toDigits 10 d.digits ++ List.replicate d.exponent.toNat '0') ++ '.' :: ['0'] := rfl
    have free : ∀ x ∈ (Nat.toDigits 10 d.digits ++ List.replicate d.exponent.toNat '0') ++
        '.' :: ['0'], x ≠ 'e' := by
      intro x member
      rcases List.mem_append.mp member with here | there
      · exact whole.ne (by decide) x here
      · rintro rfl
        simp at there
    -- The zero behind the point counts as a digit, and takes a power of ten away.
    have exponent : d.exponent = (d.exponent.toNat : ℤ) := (Int.toNat_of_nonneg nonneg).symm
    have one : (10 : ℚ) ^ (0 - (1 : ℕ) : ℤ) = 10⁻¹ := by norm_num
    rw [shape, reading_plain free, mantissaReading_fraction (whole.ne (by decide)), List.append_assoc,
      Nat.ofDigitChars_append, Nat.ofDigitChars_ten_toDigits, Nat.ofDigitChars_append,
      Nat.ofDigitChars_replicate_zero, exponent]
    simp only [List.length_singleton, one, Int.toNat_natCast, zpow_natCast]
    simp [Nat.ofDigitChars_cons]
    ring
  next negative =>
    simp only
    generalize places_ : (-d.exponent).toNat = places
    generalize padded_ : List.replicate (places + 1 - (Nat.toDigits 10 d.digits).length) '0' ++
      Nat.toDigits 10 d.digits = padded
    have all : AreDigits padded := padded_ ▸ (areDigits_zeros _).append digits
    have enough : places ≤ padded.length := by
      rw [← padded_, List.length_append, List.length_replicate]
      omega
    have whole := all.sublist (List.take_sublist (padded.length - places) padded)
    have fraction := all.sublist (List.drop_sublist (padded.length - places) padded)
    have free : ∀ x ∈ padded.take (padded.length - places) ++
        '.' :: padded.drop (padded.length - places), x ≠ 'e' := by
      intro x member
      rcases List.mem_append.mp member with here | there
      · exact whole.ne (by decide) x here
      · rcases List.mem_cons.mp there with rfl | there
        · decide
        · exact fraction.ne (by decide) x there
    have exponent : d.exponent = 0 - (places : ℤ) := by omega
    have number : Nat.ofDigitChars 10 padded 0 = d.digits := by
      rw [← padded_, Nat.ofDigitChars_append, Nat.ofDigitChars_replicate_zero, Nat.mul_zero,
        Nat.ofDigitChars_ten_toDigits]
    have length : (padded.drop (padded.length - places)).length = places := by
      rw [List.length_drop]
      omega
    rw [reading_plain free, mantissaReading_fraction (whole.ne (by decide)), List.take_append_drop,
      number, length, exponent]

theorem powerReading_signed (plus : Bool) (power : ℤ) :
    powerReading ((if power < 0 then ['-'] else if plus then ['+'] else []) ++
      Nat.toDigits 10 power.natAbs) = power := by
  have said := Nat.ofDigitChars_ten_toDigits (n := power.natAbs)
  by_cases negative : power < 0
  · rw [if_pos negative]
    simp only [List.cons_append, List.nil_append, powerReading, said]
    omega
  · rw [if_neg negative]
    cases plus with
    | true =>
      simp only [if_true, List.cons_append, List.nil_append, powerReading, said]
      omega
    | false =>
      -- Without a sign the text begins with a digit.
      have digits := areDigits_toDigits power.natAbs
      simp only [Bool.false_eq_true, if_false, List.nil_append]
      unfold powerReading
      split
      next eq => exact absurd rfl (digits.ne (d := '-') (by decide) '-' (by rw [eq]; simp))
      next eq => exact absurd rfl (digits.ne (d := '+') (by decide) '+' (by rw [eq]; simp))
      next =>
        rw [said]
        omega

theorem reading_scientific (plus : Bool) (d : Decimal) : reading (d.scientific plus) = d.value := by
  have digits := areDigits_toDigits d.digits
  have said := Nat.ofDigitChars_ten_toDigits (n := d.digits)
  have some_ : Nat.toDigits 10 d.digits ≠ [] := Nat.toDigits_ne_nil
  have power : d.power = d.exponent + (Nat.toDigits 10 d.digits).length - 1 := rfl
  have exponent := powerReading_signed plus d.power
  unfold scientific value
  generalize Nat.toDigits 10 d.digits = text at digits said some_ power ⊢
  simp only [List.append_assoc, List.cons_append]
  -- The first digit stands alone, or before a point if there are more.
  match text with
  | [] => exact absurd rfl some_
  | [first] =>
    have free : ∀ x ∈ [first], x ≠ 'e' := digits.ne (by decide)
    have shape := reading_power free ((if d.power < 0 then ['-'] else if plus then ['+'] else []) ++
      Nat.toDigits 10 d.power.natAbs)
    rw [mantissaReading_whole (digits.ne (by decide)), exponent, said] at shape
    refine Eq.trans ?_ (shape.trans ?_)
    · rfl
    · rw [power]
      simp
  | first :: next :: rest =>
    have whole : AreDigits [first] := digits.sublist (by simp)
    have free : ∀ x ∈ [first] ++ '.' :: next :: rest, x ≠ 'e' := by
      intro x member
      rcases List.mem_append.mp member with here | there
      · exact whole.ne (by decide) x here
      · rcases List.mem_cons.mp there with rfl | there
        · decide
        · exact digits.ne (by decide) x (List.mem_cons_of_mem _ there)
    have shape := reading_power free ((if d.power < 0 then ['-'] else if plus then ['+'] else []) ++
      Nat.toDigits 10 d.power.natAbs)
    have parts : [first] ++ next :: rest = first :: next :: rest := rfl
    rw [mantissaReading_fraction (whole.ne (by decide)), exponent, parts, said] at shape
    have same : d.power - ((next :: rest).length : ℤ) = d.exponent := by
      rw [power]
      simp only [List.length_cons]
      push_cast
      ring
    refine Eq.trans ?_ (shape.trans ?_)
    · simp
    · rw [same]

/-! ### Characters -/

/-- Whether a character may stand in the text of a number. -/
def IsNumberChar (c : Char) : Prop := c.isDigit = true ∨ c = '-' ∨ c = '+' ∨ c = '.' ∨ c = 'e'

instance (c : Char) : Decidable (IsNumberChar c) :=
  inferInstanceAs (Decidable (c.isDigit = true ∨ c = '-' ∨ c = '+' ∨ c = '.' ∨ c = 'e'))

theorem AreDigits.number {cs : List Char} (digits : AreDigits cs) : ∀ c ∈ cs, IsNumberChar c :=
  fun c member => .inl (digits c member)

/-- Whether a text is that of a number without sign which is not written as an integer. -/
structure IsFractional (cs : List Char) : Prop where
  chars : ∀ c ∈ cs, IsNumberChar c
  marked : '.' ∈ cs ∨ 'e' ∈ cs
  unsigned : cs.head? ≠ some '-'

theorem isFractional_of_point {whole fraction : List Char} (digits : AreDigits whole)
    (some_ : whole ≠ []) (digits' : AreDigits fraction) :
    IsFractional (whole ++ '.' :: fraction) := by
  refine ⟨?_, .inl (by simp), ?_⟩
  · intro c member
    rcases List.mem_append.mp member with here | there
    · exact digits.number c here
    · rcases List.mem_cons.mp there with rfl | there
      · decide
      · exact digits'.number c there
  · obtain ⟨first, rest, rfl⟩ := List.exists_cons_of_ne_nil some_
    have other : first ≠ '-' := digits.ne (by decide) first List.mem_cons_self
    simpa using other

theorem isFractional_positional (d : Decimal) : IsFractional d.positional := by
  have digits := areDigits_toDigits d.digits
  have some_ : Nat.toDigits 10 d.digits ≠ [] := Nat.toDigits_ne_nil
  unfold positional
  split
  next =>
    have whole := digits.append (areDigits_zeros d.exponent.toNat)
    have zero : AreDigits ['0'] := areDigits_zeros 1
    exact isFractional_of_point whole (by simp [some_]) zero
  next negative =>
    simp only
    have padded := (areDigits_zeros ((-d.exponent).toNat + 1 -
      (Nat.toDigits 10 d.digits).length)).append digits
    apply isFractional_of_point (padded.sublist (List.take_sublist _ _)) _
      (padded.sublist (List.drop_sublist _ _))
    -- The padding leaves a digit before the point.
    rw [← List.length_pos_iff, List.length_take, List.length_append, List.length_replicate]
    omega

theorem isFractional_scientific (plus : Bool) (d : Decimal) : IsFractional (d.scientific plus) := by
  have digits := areDigits_toDigits d.digits
  have some_ : Nat.toDigits 10 d.digits ≠ [] := Nat.toDigits_ne_nil
  have power := areDigits_toDigits d.power.natAbs
  unfold scientific
  obtain ⟨first, rest, text⟩ := List.exists_cons_of_ne_nil some_
  rw [text] at digits
  simp only [text]
  refine ⟨?_, .inr (by simp), ?_⟩
  · intro c member
    simp only [List.append_assoc, List.cons_append, List.mem_append, List.mem_cons] at member
    rcases member with whole | fraction | rfl | sign | exponent
    · exact digits.number c (List.mem_of_mem_take whole)
    · split at fraction
      next => cases fraction
      next =>
        rcases List.mem_cons.mp fraction with rfl | there
        · decide
        · exact digits.number c (List.mem_of_mem_drop there)
    · decide
    · split_ifs at sign
      · rw [List.mem_singleton.mp sign]
        decide
      · rw [List.mem_singleton.mp sign]
        decide
      · cases sign
    · exact power.number c exponent
  · have other : first ≠ '-' := digits.ne (by decide) first List.mem_cons_self
    simpa using other

end Printworks.Decimal
