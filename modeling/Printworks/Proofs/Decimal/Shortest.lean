import Printworks.Proofs.Decimal.Rounding

/-!
# The shortest decimal rounds to its double

The grids that are searched get finer, and the last one is so fine that a neighbour of the value on it
lies in the interval. So the decimal that is found always does.
-/

namespace Printworks

namespace Decimal

/-- The number that a decimal stands for. -/
def value (d : Decimal) : ℚ := d.digits * 10 ^ d.exponent

theorem tenPow_pos (e : ℤ) : 0 < tenPow e := Nat.pow_pos (by decide)

theorem tenPow_eq (e : ℤ) : (tenPow e : ℚ) = 10 ^ e * tenPow (-e) := by
  unfold tenPow
  simp only [Nat.pow_eq, Nat.cast_pow, Nat.cast_ofNat]
  obtain ⟨n, rfl | rfl⟩ := e.eq_nat_or_neg
  · simp
  · simp

/-- Zeros at the end of the digits count for nothing. -/
theorem value_dropZeros (fuel : ℕ) (d : Decimal) : (d.dropZeros fuel).value = d.value := by
  induction fuel generalizing d with
  | zero => rfl
  | succ fuel ih =>
    rw [dropZeros]
    split
    next ends =>
      rw [ih]
      have digits : (d.digits : ℚ) = (d.digits / 10 : ℕ) * 10 := by
        have exact_ : d.digits = d.digits / 10 * 10 := by omega
        exact_mod_cast exact_
      unfold value
      rw [digits, zpow_add_one₀ (by norm_num)]
      ring
    next => rfl

end Decimal

namespace Double

open Decimal (tenPow tenPow_pos tenPow_eq)

/-! ### Points of a grid -/

namespace Interval

variable {i : Interval} {k : ℤ} {c n : ℕ}

theorem le_point (den : 0 < i.den) : n * tenPow (-k) ≤ c * (i.den * tenPow k) ↔
    (n / i.den : ℚ) ≤ c * 10 ^ k := by
  have den' : (0 : ℚ) < i.den := by exact_mod_cast den
  have unit : (0 : ℚ) < tenPow (-k) := by exact_mod_cast tenPow_pos _
  have same : (c * (i.den * tenPow k) : ℚ) = c * 10 ^ k * i.den * tenPow (-k) := by
    rw [tenPow_eq k]
    ring
  rw [div_le_iff₀ den', ← mul_le_mul_iff_left₀ unit, ← same]
  exact_mod_cast Iff.rfl

theorem point_le (den : 0 < i.den) : c * (i.den * tenPow k) ≤ n * tenPow (-k) ↔
    (c * 10 ^ k : ℚ) ≤ n / i.den := by
  have den' : (0 : ℚ) < i.den := by exact_mod_cast den
  have unit : (0 : ℚ) < tenPow (-k) := by exact_mod_cast tenPow_pos _
  have same : (c * (i.den * tenPow k) : ℚ) = c * 10 ^ k * i.den * tenPow (-k) := by
    rw [tenPow_eq k]
    ring
  rw [le_div_iff₀ den', ← mul_le_mul_iff_left₀ unit, ← same]
  exact_mod_cast Iff.rfl

theorem holds_iff (den : 0 < i.den) : i.holds k c = true ↔ i.Contains (c * 10 ^ k) := by
  unfold holds Contains
  by_cases closed : i.closed = true
  · rw [if_pos closed, if_pos closed, decide_eq_true_iff, le_point den, point_le den]
    rfl
  · rw [if_neg closed, if_neg closed, decide_eq_true_iff, ← not_le, ← not_le, point_le den,
      le_point den, not_le, not_le]
    rfl

theorem holds_of_onGrid? {tie : Decimal.Tie} (found : i.onGrid? tie k = some c) :
    i.holds k c = true := by
  simp only [onGrid?] at found
  split at found
  next low high =>
    split at found
    next =>
      cases found
      exact high
    next =>
      cases found
      exact low
  next low _ =>
    cases found
    exact low
  next _ high =>
    cases found
    exact high
  next => cases found

/-- If no neighbour of the value on a grid lies in the interval, then the grid is as wide as the
interval. -/
theorem width_le_of_onGrid? {tie : Decimal.Tie} (den : 0 < i.den) (inside : i.lowest < i.middle)
    (inside' : i.middle < i.highest) (missed : i.onGrid? tie k = none) :
    i.highest - i.lowest ≤ 10 ^ k := by
  -- The middle lies between two neighbours on the grid. Both are outside, so the interval lies between
  -- them too.
  obtain ⟨c, floor⟩ : ∃ c, i.value * tenPow (-k) / (i.den * tenPow k) = c := ⟨_, rfl⟩
  have unit : 0 < i.den * tenPow k := Nat.mul_pos den (tenPow_pos k)
  have below : (c * 10 ^ k : ℚ) ≤ i.middle := by
    apply (point_le den).mp
    rw [← floor]
    exact Nat.div_mul_le_self _ _
  have above : i.middle ≤ ((c + 1 : ℕ) * 10 ^ k : ℚ) := by
    apply (le_point den).mp
    have next := Nat.lt_mul_div_succ (i.value * tenPow (-k)) unit
    rw [← floor, Nat.mul_comm _ (i.den * tenPow k)]
    exact next.le
  have outside : i.holds k c = false ∧ i.holds k (c + 1) = false := by
    simp only [onGrid?, floor] at missed
    split at missed
    next => cases missed
    next => cases missed
    next => cases missed
    next low high => exact ⟨low, high⟩
  have away (n : ℕ) (other : i.holds k n = false) :
      (n * 10 ^ k : ℚ) ≤ i.lowest ∨ i.highest ≤ (n * 10 ^ k : ℚ) := by
    by_contra between
    rw [not_or, not_le, not_le] at between
    have inner : i.holds k n = true := by
      rw [holds_iff den]
      unfold Contains
      split
      next => exact ⟨between.1.le, between.2.le⟩
      next => exact between
    rw [inner] at other
    cases other
  have low : (c * 10 ^ k : ℚ) ≤ i.lowest := by
    rcases away c outside.1 with low | high
    · exact low
    · linarith
  have high : i.highest ≤ ((c + 1 : ℕ) * 10 ^ k : ℚ) := by
    rcases away (c + 1) outside.2 with low | high
    · linarith
    · exact high
  push_cast at high
  linarith

/-! ### The first digit -/

/-- The guess that is made of a decimal logarithm is too large by less than one, for all powers of two
that a double may come near. -/
private theorem ten_pow_le_two_pow : ∀ n < 1200,
    10 ^ (n * 30103 / 100000) ≤ 10 * 2 ^ n ∧ 2 ^ n ≤ 10 ^ ((n * 30103 + 99999) / 100000) := by
  decide +kernel

theorem ten_zpow_guess_le {l : ℤ} (low : -1200 < l) (high : l < 1200) :
    (10 : ℚ) ^ (l * 30103 / 100000 - 1) ≤ 2 ^ l := by
  obtain ⟨n, rfl | rfl⟩ := l.eq_nat_or_neg
  · have bound := (ten_pow_le_two_pow n (by omega)).1
    have bound' : (10 : ℚ) ^ (n * 30103 / 100000) ≤ 10 * 2 ^ n := by exact_mod_cast bound
    have guess : (n : ℤ) * 30103 / 100000 = ((n * 30103 / 100000 : ℕ) : ℤ) := by push_cast; rfl
    rw [guess, zpow_sub_one₀ (by norm_num), zpow_natCast, zpow_natCast]
    linarith
  · have bound := (ten_pow_le_two_pow n (by omega)).2
    have bound' : (2 : ℚ) ^ n ≤ 10 ^ ((n * 30103 + 99999) / 100000) := by exact_mod_cast bound
    have guess : -(n : ℤ) * 30103 / 100000 = -(((n * 30103 + 99999) / 100000 : ℕ) : ℤ) := by
      push_cast
      omega
    have positive : (0 : ℚ) < 2 ^ n := by positivity
    rw [guess, zpow_sub_one₀ (by norm_num), zpow_neg, zpow_neg, zpow_natCast, zpow_natCast]
    have inverse : ((10 : ℚ) ^ ((n * 30103 + 99999) / 100000))⁻¹ ≤ (2 ^ n)⁻¹ :=
      inv_anti₀ positive bound'
    have nonneg : (0 : ℚ) ≤ ((10 : ℚ) ^ ((n * 30103 + 99999) / 100000))⁻¹ := by positivity
    linarith

/-- The first digit of a number stands for no more than the number. -/
theorem ten_zpow_leadingExponent_le (den : 0 < i.den) {j : ℕ} (power : i.den = 2 ^ j)
    (value : 0 < i.value) (low : -1200 < (Nat.log2 i.value : ℤ) - j)
    (high : (Nat.log2 i.value : ℤ) - j < 1200) :
    (10 : ℚ) ^ i.leadingExponent ≤ i.middle := by
  have reached (e : ℤ) (atLeast : i.den * tenPow e ≤ i.value * tenPow (-e)) :
      (10 : ℚ) ^ e ≤ i.middle := by
    have point := (point_le (c := 1) den).mp ((Nat.one_mul _).trans_le atLeast)
    simpa [middle] using point
  have log : Nat.log2 i.den = j := by rw [power, Nat.log2_two_pow]
  unfold leadingExponent
  simp only [log]
  split
  next atLeast => exact reached _ (by simpa using atLeast)
  next =>
    split
    next atLeast => exact reached _ (by simpa using atLeast)
    next =>
      refine (ten_zpow_guess_le low high).trans ?_
      -- The number is at least the power of two that its binary logarithm stands for.
      have two : (2 : ℚ) ^ (Nat.log2 i.value) ≤ i.value := by
        exact_mod_cast Nat.log2_self_le value.ne'
      have den' : (0 : ℚ) < 2 ^ j := by positivity
      have same : (i.den : ℚ) = 2 ^ j := by rw [power]; push_cast; rfl
      unfold middle
      rw [same, le_div_iff₀ den', zpow_sub₀ (by norm_num), zpow_natCast, zpow_natCast,
        div_mul_cancel₀ _ den'.ne']
      exact two

end Interval

/-! ### Doubles -/

variable {d : Double}

theorem den_pos (d : Double) : 0 < d.interval.den := twoPow_pos _

theorem scale_le (finite : d.isFinite = true) : d.scale ≤ 971 := by
  have field : d.exponentField < 2047 := of_decide_eq_true finite
  unfold scale
  split
  next => omega
  next => omega

theorem le_scale (d : Double) : -1074 ≤ d.scale := by
  unfold scale
  split
  next => omega
  next => omega

theorem value_interval_pos (pos : 0 < d.payload) : 0 < d.interval.value := by
  have significand : 0 < d.significand := significandOf_pos pos
  exact Nat.mul_pos (by omega) (twoPow_pos _)

/-- The significand has no more than 53 bits. -/
theorem log2_value_interval_lt (pos : 0 < d.payload) :
    Nat.log2 d.interval.value < 55 + (d.scale - 2).toNat := by
  rw [Nat.log2_lt (value_interval_pos pos).ne', Nat.pow_add]
  have significand : d.significand < 2 ^ 53 := significandOf_lt d.payload
  change 4 * d.significand * 2 ^ (d.scale - 2).toNat < _
  apply Nat.mul_lt_mul_of_pos_right _ (by positivity)
  omega

theorem ten_zpow_leadingExponent_interval_le (finite : d.isFinite = true) (pos : 0 < d.payload) :
    (10 : ℚ) ^ d.interval.leadingExponent ≤ d.interval.middle := by
  have value := value_interval_pos pos
  have bits := log2_value_interval_lt pos
  have low := le_scale d
  have high := scale_le finite
  apply Interval.ten_zpow_leadingExponent_le (den_pos d) (j := (2 - d.scale).toNat) rfl value
  · omega
  · omega

/-- With seventeen digits a neighbour of the value lies in the interval. -/
theorem onGrid?_seventeen (tie : Decimal.Tie) (finite : d.isFinite = true) (pos : 0 < d.payload) :
    d.interval.onGrid? tie (d.interval.leadingExponent + 1 - (17 : ℕ)) ≠ none := by
  intro missed
  have unit : (0 : ℚ) < 2 ^ (d.scale - 2) := by positivity
  have lead := ten_zpow_leadingExponent_interval_le finite pos
  have four : (2 : ℚ) ^ d.scale = 4 * 2 ^ (d.scale - 2) := by
    rw [show d.scale = 2 + (d.scale - 2) by ring, zpow_add₀ (by norm_num)]
    norm_num
  have middle := middle_interval d
  have lowest := lowest_interval pos
  have highest := highest_interval d
  have gap : (0 : ℚ) < gapOf d.payload := by
    rcases gapOf_cases d.payload with gap | ⟨gap, -⟩ <;> simp [gap]
  rw [four] at middle
  rw [lowerEnd, ← significand_eq, ← scale_eq] at lowest
  rw [upperEnd, ← significand_eq, ← scale_eq] at highest
  have inside : d.interval.lowest < d.interval.middle := by
    rw [lowest, middle]
    nlinarith
  have inside' : d.interval.middle < d.interval.highest := by
    rw [highest, middle]
    nlinarith
  have wide := Interval.width_le_of_onGrid? (den_pos d) inside inside' missed
  have grid : (10 : ℚ) ^ (d.interval.leadingExponent + 1 - (17 : ℕ)) * 10 ^ 16 =
      10 ^ d.interval.leadingExponent := by
    rw [← zpow_natCast, ← zpow_add₀ (by norm_num)]
    congr 1
    push_cast
    ring
  -- In units of a fourth of the last bit: the interval has 3 or 4 of them, and the value so few that
  -- the grid has less.
  have few : ((2 + gapOf d.payload) * 10 ^ 16 : ℚ) ≤ 4 * d.significand := by
    have bound : ((2 + gapOf d.payload) * 2 ^ (d.scale - 2) * 10 ^ 16 : ℚ) ≤
        4 * d.significand * 2 ^ (d.scale - 2) := by
      rw [highest, lowest] at wide
      rw [middle] at lead
      linarith
    have bound' : ((2 + gapOf d.payload) * 10 ^ 16 * 2 ^ (d.scale - 2) : ℚ) ≤
        4 * d.significand * 2 ^ (d.scale - 2) := by linarith
    exact le_of_mul_le_mul_right bound' unit
  have few' : (2 + gapOf d.payload) * 10 ^ 16 ≤ 4 * d.significand := by exact_mod_cast few
  have bits : d.significand < 2 * fractionSize := significandOf_lt d.payload
  rw [fractionSize_eq] at bits
  rcases gapOf_cases d.payload with gap | ⟨gap, first⟩
  · rw [gap] at few'
    omega
  · rw [← significand_eq, fractionSize_eq] at first
    rw [gap] at few'
    omega

/-- A search that ends at the latest with seventeen digits finds a decimal in the interval. -/
theorem contains_shortestFrom {tie : Decimal.Tie} {i : Interval} {lead : ℤ} (den : 0 < i.den)
    (hit : i.onGrid? tie (lead + 1 - (17 : ℕ)) ≠ none) {fuel digits : ℕ} (some_ : 0 < fuel)
    (total : fuel + digits = 18) : i.Contains (i.shortestFrom tie lead fuel digits).value := by
  induction fuel generalizing digits with
  | zero => omega
  | succ fuel ih =>
    unfold Interval.shortestFrom
    simp only
    split
    next c found =>
      apply (Interval.holds_iff den).mp
      exact Interval.holds_of_onGrid? found
    next missed =>
      by_cases last : fuel = 0
      · have seventeen : digits = 17 := by omega
        rw [seventeen] at missed
        exact absurd missed hit
      · exact ih (by omega) (by omega)

/-- The decimal that stands for a double lies in its interval. -/
theorem contains_shortest (tie : Decimal.Tie) (finite : d.isFinite = true) (pos : 0 < d.payload) :
    d.interval.Contains (d.shortest tie).value := by
  have some_ : d.isZero = false := by
    simp only [isZero, beq_eq_false_iff_ne]
    omega
  rw [shortest, if_neg (by simp [some_]), Decimal.value_dropZeros]
  exact contains_shortestFrom (den_pos d) (onGrid?_seventeen tie finite pos) (by decide) rfl

/-- The decimal of a double is zero exactly if the double is. -/
theorem value_shortest_pos_iff (tie : Decimal.Tie) (finite : d.isFinite = true) :
    0 < (d.shortest tie).value ↔ 0 < d.payload := by
  constructor
  · intro pos
    by_contra none
    have zero : d.isZero = true := by
      simp only [isZero, beq_iff_eq]
      omega
    rw [shortest, if_pos zero] at pos
    simp [Decimal.value] at pos
  · intro pos
    have lowest := lowest_interval pos
    have contained := (contains_shortest tie finite pos).le.1
    -- The interval begins where the one before it ends.
    obtain ⟨p, later⟩ : ∃ p, d.payload = p + 1 := ⟨d.payload - 1, by omega⟩
    rw [later, lowerEnd_succ] at lowest
    have above : 0 < upperEnd p := by
      unfold upperEnd
      positivity
    rw [lowest] at contained
    exact lt_of_lt_of_le above contained

/-- Doubles with one decimal are equal, up to their signs. -/
theorem payload_eq_of_value {x y : Double} {tie tie' : Decimal.Tie} (finiteX : x.isFinite = true)
    (finiteY : y.isFinite = true) (same : (x.shortest tie).value = (y.shortest tie').value) :
    x.payload = y.payload := by
  have posX := value_shortest_pos_iff tie finiteX
  have posY := value_shortest_pos_iff tie' finiteY
  rw [same] at posX
  by_cases pos : 0 < (y.shortest tie').value
  · have inX := contains_shortest tie finiteX (posX.mp pos)
    have inY := contains_shortest tie' finiteY (posY.mp pos)
    rw [← same] at inY
    apply Nat.le_antisymm
    · exact payload_le_of_contains (posX.mp pos) inY inX
    · exact payload_le_of_contains (posY.mp pos) inX inY
  · have zeroX : ¬ 0 < x.payload := fun more => pos (posX.mpr more)
    have zeroY : ¬ 0 < y.payload := fun more => pos (posY.mpr more)
    omega

/-- A double is given by its sign and the rest of its pattern. -/
theorem eq_of_payload {x y : Double} (sign : x.isNegative = y.isNegative)
    (payload : x.payload = y.payload) : x = y := by
  have bits : x.bits.toNat = y.bits.toNat := by
    have ltX := x.bits.toNat_lt
    have ltY := y.bits.toNat_lt
    simp only [isNegative, decide_eq_decide, Double.payload, Nat.pow_eq] at sign payload
    omega
  cases x
  cases y
  exact congrArg Double.mk (UInt64.toNat_inj.mp bits)

end Double

end Printworks
