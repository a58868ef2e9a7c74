import Mathlib.Algebra.Order.Field.Power
import Mathlib.Data.Rat.Cast.Order
import Mathlib.Tactic.Linarith
import Mathlib.Tactic.Positivity
import Mathlib.Tactic.Ring
import Printworks.Decimal.Shortest

/-!
# The reals that round to a double

The interval of each double ends where that of the next one begins. The end that two intervals share
belongs to the one whose pattern is even, so that no number lies in the intervals of two doubles.
-/

namespace Printworks

namespace Double

/-! ### Powers of two -/

theorem twoPow_pos (e : ℤ) : 0 < twoPow e := Nat.pow_pos (by decide)

theorem twoPow_eq (e : ℤ) : (twoPow e : ℚ) = 2 ^ e * twoPow (-e) := by
  unfold twoPow
  simp only [Nat.pow_eq, Nat.cast_pow, Nat.cast_ofNat]
  -- One of the two powers is that of a natural exponent, and the other one is 1.
  obtain ⟨n, rfl | rfl⟩ := e.eq_nat_or_neg
  · simp
  · simp

/-! ### Significands and scales -/

/-- The natural number `m` of the absolute value `m · 2 ^ q` of the doubles with a payload. -/
def significandOf (payload : ℕ) : ℕ :=
  if payload / fractionSize = 0 then payload % fractionSize
  else payload % fractionSize + fractionSize

/-- The exponent `q` of the absolute value `m · 2 ^ q` of the doubles with a payload. -/
def scaleOf (payload : ℕ) : ℤ :=
  if payload / fractionSize = 0 then -1074 else (payload / fractionSize : ℕ) - 1075

theorem significand_eq (d : Double) : d.significand = significandOf d.payload := rfl

theorem scale_eq (d : Double) : d.scale = scaleOf d.payload := rfl

theorem fractionSize_eq : fractionSize = 4503599627370496 := by decide

theorem significandOf_mod_two (p : ℕ) : significandOf p % 2 = p % 2 := by
  unfold significandOf
  rw [fractionSize_eq]
  split <;> omega

theorem significandOf_pos {p : ℕ} (pos : 0 < p) : 0 < significandOf p := by
  unfold significandOf
  rw [fractionSize_eq]
  split <;> omega

theorem significandOf_lt (p : ℕ) : significandOf p < 2 * fractionSize := by
  have fraction : p % fractionSize < fractionSize := Nat.mod_lt _ (by decide)
  unfold significandOf
  split <;> omega

/-- How far the interval of the doubles with a payload reaches below them, in fourths of their unit.
Below a power of two the patterns lie half as far apart as above it. -/
def gapOf (payload : ℕ) : ℕ :=
  if payload % fractionSize = 0 ∧ 1 < payload / fractionSize then 1 else 2

/-- The next payload has the next significand, or it is the first one of the next scale. -/
theorem fields_succ (p : ℕ) :
    (significandOf (p + 1) = significandOf p + 1 ∧ scaleOf (p + 1) = scaleOf p ∧
      gapOf (p + 1) = 2) ∨
    (significandOf p + 1 = 2 * fractionSize ∧ significandOf (p + 1) = fractionSize ∧
      scaleOf (p + 1) = scaleOf p + 1 ∧ gapOf (p + 1) = 1) := by
  unfold significandOf scaleOf gapOf
  rw [fractionSize_eq]
  -- The first payload with an exponent still has the scale of those without one.
  by_cases tiny : p / 4503599627370496 = 0
  · left
    split_ifs <;> omega
  · by_cases last : p % 4503599627370496 + 1 = 4503599627370496
    · right
      split_ifs <;> omega
    · left
      split_ifs <;> omega

theorem gapOf_cases (p : ℕ) : gapOf p = 2 ∨ gapOf p = 1 ∧ significandOf p = fractionSize := by
  unfold gapOf significandOf
  rw [fractionSize_eq]
  split_ifs <;> omega

/-! ### Intervals -/

/-- The ends of the interval of the doubles with a payload. -/
def lowerEnd (payload : ℕ) : ℚ :=
  (4 * significandOf payload - gapOf payload) * 2 ^ (scaleOf payload - 2)

def upperEnd (payload : ℕ) : ℚ :=
  (4 * significandOf payload + 2) * 2 ^ (scaleOf payload - 2)

theorem lowerEnd_lt_upperEnd (p : ℕ) : lowerEnd p < upperEnd p := by
  have unit : (0 : ℚ) < 2 ^ (scaleOf p - 2) := by positivity
  unfold lowerEnd upperEnd
  apply mul_lt_mul_of_pos_right _ unit
  have gap : (0 : ℚ) ≤ gapOf p := Nat.cast_nonneg _
  linarith

/-- Each interval begins where the one before it ends. -/
theorem lowerEnd_succ (p : ℕ) : lowerEnd (p + 1) = upperEnd p := by
  unfold lowerEnd upperEnd
  obtain ⟨next, scale, gap⟩ | ⟨last, first, scale, gap⟩ := fields_succ p
  · rw [next, scale, gap]
    push_cast
    ring
  · have significand : (significandOf p : ℚ) = 2 * fractionSize - 1 := by
      rw [eq_sub_iff_add_eq]
      exact_mod_cast last
    have power : (2 : ℚ) ^ (scaleOf p + 1 - 2) = 2 * 2 ^ (scaleOf p - 2) := by
      rw [show scaleOf p + 1 - 2 = 1 + (scaleOf p - 2) by ring, zpow_add₀ (by norm_num), zpow_one]
    rw [first, scale, gap, significand, power]
    push_cast
    ring

theorem upperEnd_strictMono : StrictMono upperEnd := by
  apply strictMono_nat_of_lt_succ
  intro p
  rw [← lowerEnd_succ]
  exact lowerEnd_lt_upperEnd (p + 1)

/-- The ends and the value of an interval. -/
def Interval.lowest (i : Interval) : ℚ := i.low / i.den

def Interval.highest (i : Interval) : ℚ := i.high / i.den

def Interval.middle (i : Interval) : ℚ := i.value / i.den

/-- Whether a number lies in an interval. -/
def Interval.Contains (i : Interval) (v : ℚ) : Prop :=
  if i.closed then i.lowest ≤ v ∧ v ≤ i.highest else i.lowest < v ∧ v < i.highest

theorem Interval.Contains.le {i : Interval} {v : ℚ} (h : i.Contains v) :
    i.lowest ≤ v ∧ v ≤ i.highest := by
  unfold Contains at h
  split at h
  next => exact h
  next => exact ⟨h.1.le, h.2.le⟩

/-- An interval that contains an end of it is closed. -/
theorem Interval.Contains.closed {i : Interval} {v : ℚ} (h : i.Contains v)
    (atEnd : v = i.lowest ∨ v = i.highest) : i.closed = true := by
  unfold Contains at h
  split at h
  next closed => exact closed
  next =>
    rcases atEnd with low | high
    · exact absurd low h.1.ne'
    · exact absurd high h.2.ne

theorem scaled (d : Double) (n : ℕ) :
    ((n * twoPow (d.scale - 2) : ℕ) : ℚ) / d.interval.den = n * 2 ^ (d.scale - 2) := by
  have den : (0 : ℚ) < twoPow (-(d.scale - 2)) := by exact_mod_cast twoPow_pos _
  have same : d.interval.den = twoPow (-(d.scale - 2)) := by
    rw [neg_sub]
    rfl
  rw [same, Nat.cast_mul, twoPow_eq (d.scale - 2), div_eq_iff den.ne']
  ring

theorem highest_interval (d : Double) : d.interval.highest = upperEnd d.payload := by
  refine (scaled d (4 * d.significand + 2)).trans ?_
  push_cast
  rfl

theorem middle_interval (d : Double) : d.interval.middle = d.significand * 2 ^ d.scale := by
  have power : (2 : ℚ) ^ d.scale = 4 * 2 ^ (d.scale - 2) := by
    rw [show d.scale = 2 + (d.scale - 2) by ring, zpow_add₀ (by norm_num)]
    norm_num
  refine (scaled d (4 * d.significand)).trans ?_
  rw [power]
  push_cast
  ring

theorem lowest_interval {d : Double} (pos : 0 < d.payload) :
    d.interval.lowest = lowerEnd d.payload := by
  have enough : gapOf d.payload ≤ 4 * d.significand := by
    have significand : 0 < d.significand := significandOf_pos pos
    rcases gapOf_cases d.payload with gap | ⟨gap, -⟩ <;> omega
  refine (scaled d (4 * d.significand - gapOf d.payload)).trans ?_
  push_cast [Nat.cast_sub enough]
  rfl

theorem closed_interval (d : Double) : d.interval.closed = true ↔ d.payload % 2 = 0 := by
  rw [← significandOf_mod_two]
  exact beq_iff_eq

/-- No number lies in the intervals of two doubles that are not zero, up to their signs. -/
theorem payload_le_of_contains {x y : Double} (posY : 0 < y.payload) {v : ℚ}
    (inX : x.interval.Contains v) (inY : y.interval.Contains v) : y.payload ≤ x.payload := by
  by_contra less
  obtain ⟨p, later⟩ : ∃ p, y.payload = p + 1 := ⟨y.payload - 1, by omega⟩
  have before : x.payload ≤ p := by omega
  have low := lowest_interval posY
  have high := highest_interval x
  rw [later, lowerEnd_succ] at low
  have order : upperEnd x.payload ≤ upperEnd p := upperEnd_strictMono.monotone before
  have atLeast := inY.le.1
  have atMost := inX.le.2
  rw [low] at atLeast
  rw [high] at atMost
  -- The number is where one interval ends and the next begins, and both patterns would be even.
  have shared : upperEnd x.payload = upperEnd p := by linarith
  have adjacent : x.payload = p := upperEnd_strictMono.injective shared
  have evenX := (closed_interval x).mp (inX.closed (.inr (by linarith)))
  have evenY := (closed_interval y).mp (inY.closed (.inl (by linarith)))
  omega

end Double

end Printworks
