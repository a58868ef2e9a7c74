import Mathlib.Algebra.Group.Nat.Defs
import Mathlib.Data.List.Perm.Subperm
import Mathlib.Logic.Function.Iterate
import Mathlib.Data.Nat.Find
import Printworks.Proofs.Dict
import Printworks.Suffixes

/-!
# What is drawn from a supply of suffixes

Whatever supply it is, a name is found that is free. As long as the supply has a free token in time, it
is the first free one, so that names get numbers only where a supply does not suffice for the names that
are taken. Random tokens of eight hexadecimal digits are such a supply.
-/

namespace Printworks

theorem suffixed_inj {base a b : String} (h : suffixed base a = suffixed base b) : a = b := by
  have := congrArg String.toList h
  simp only [suffixed, String.toList_append, List.append_cancel_left_eq] at this
  exact String.toList_inj.mp this

/-- More names than there are in a list do not all occur in it. -/
theorem exists_not_mem_of_injOn {taken : List String} {n : Nat} (f : Nat → String)
    (inj : ∀ i < n, ∀ j < n, f i = f j → i = j) (more : taken.length < n) :
    ∃ k < n, f k ∉ taken := by
  by_contra all
  simp only [not_exists, not_and, not_not] at all
  have nodup : ((List.range n).map f).Nodup :=
    List.Nodup.map_on
      (fun i inside j inside' => inj i (List.mem_range.mp inside) j (List.mem_range.mp inside'))
      List.nodup_range
  have within : (List.range n).map f ⊆ taken := by
    intro name member
    obtain ⟨k, inside, rfl⟩ := List.mem_map.mp member
    exact all k (List.mem_range.mp inside)
  have short := (nodup.subperm within).length_le
  simp at short
  omega

namespace SuffixSupply

theorem numberToken_inj {m n : Nat} (h : numberToken m = numberToken n) : m = n := by
  have digits : Nat.toDigits 10 (m + 1) = Nat.toDigits 10 (n + 1) := by
    have := congrArg String.toList h
    simpa [numberToken] using this
  have := congrArg (fun ds => Nat.ofDigitChars 10 ds 0) digits
  simpa [Nat.ofDigitChars_toDigits] using this

end SuffixSupply

namespace Suffixes

variable {s : Suffixes} {taken : List String} {base : String}

@[simp] theorem supply_advance (s : Suffixes) (base : String) : (s.advance base).supply = s.supply :=
  rfl

@[simp] theorem count_advance (s : Suffixes) (base : String) :
    (s.advance base).count base = s.count base + 1 := by
  simp [count, advance, Dict.get?_insert_self]

/-- The name with the token that is drawn after some others. -/
def upcoming (s : Suffixes) (base : String) (k : Nat) : String :=
  suffixed base (s.supply.token base (s.count base + k))

theorem upcoming_advance (s : Suffixes) (base : String) (k : Nat) :
    (s.advance base).upcoming base k = s.upcoming base (k + 1) := by
  rw [upcoming, upcoming, supply_advance, count_advance]
  congr 2
  omega

/-- Whether the supply gives a free name in time, where certain names are taken. -/
def Escapes (s : Suffixes) (taken : List String) (base : String) : Prop :=
  ∃ k < s.supply.patience taken base (s.count base), s.upcoming base k ∉ taken

/-- More numbers are tried than names are taken. -/
theorem numberedName_not_mem (taken : List String) (base : String) :
    numberedName taken base ∉ taken := by
  obtain ⟨k, inside, free⟩ := exists_not_mem_of_injOn
    (fun n => suffixed base (SuffixSupply.numberToken n))
    (fun i _ j _ same => SuffixSupply.numberToken_inj (suffixed_inj same))
    (Nat.lt_succ_self taken.length)
  simp only [numberedName]
  cases found : ((List.range (taken.length + 1)).map
      (suffixed base <| SuffixSupply.numberToken ·)).find? (· ∉ taken) with
  | some name => simpa using List.find?_some found
  | none =>
    have occurs := List.find?_eq_none.mp found _
      (List.mem_map.mpr ⟨k, List.mem_range.mpr inside, rfl⟩)
    simp only [decide_not, Bool.not_eq_true', Bool.not_eq_false, decide_eq_true_eq] at occurs
    exact absurd occurs free

theorem drawUntilFree_not_mem (taken : List String) (base : String) (draws : Nat) (s : Suffixes) :
    (drawUntilFree taken base draws s).1 ∉ taken := by
  induction draws generalizing s with
  | zero => exact numberedName_not_mem taken base
  | succ draws ih =>
    simp only [drawUntilFree]
    split
    next => exact ih _
    next free => exact free

/-- Whatever names are taken, a name is found that is not. -/
theorem fresh_not_mem (taken : List String) (base : String) (s : Suffixes) :
    (fresh taken base s).1 ∉ taken := by
  simp only [fresh]
  split
  next => exact drawUntilFree_not_mem _ _ _ _
  next free => exact free

theorem fresh_of_not_mem (s : Suffixes) (free : base ∉ taken) : fresh taken base s = (base, s) := by
  simp [fresh, free]

theorem drawUntilFree_eq {draws k : Nat} (inside : k < draws)
    (before : ∀ i < k, s.upcoming base i ∈ taken) (free : s.upcoming base k ∉ taken) :
    drawUntilFree taken base draws s = (s.upcoming base k, (fun s => s.advance base)^[k + 1] s) := by
  induction draws generalizing s k with
  | zero => omega
  | succ draws ih =>
    rw [drawUntilFree, show s.next base = s.upcoming base 0 from rfl]
    cases k with
    | zero =>
      rw [if_neg free]
      rfl
    | succ k =>
      have later (i : Nat) (earlier : i < k) : (s.advance base).upcoming base i ∈ taken := by
        rw [upcoming_advance]
        exact before (i + 1) (by omega)
      rw [← upcoming_advance] at free ⊢
      rw [if_pos (before 0 (by omega)), ih (Nat.lt_of_succ_lt_succ inside) later free]
      rfl

/-- As long as its supply suffices for the names that are taken, a name that is taken gets the first
token that makes it free, and no more tokens are drawn. -/
theorem fresh_of_escapes (used : base ∈ taken) (escapes : s.Escapes taken base) :
    ∃ k, s.upcoming base k ∉ taken ∧ (∀ i < k, s.upcoming base i ∈ taken) ∧
      fresh taken base s = (s.upcoming base k, (fun s => s.advance base)^[k + 1] s) := by
  have free : ∃ k, s.upcoming base k ∉ taken := escapes.imp (fun _ => And.right)
  obtain ⟨k, inside, escape⟩ := escapes
  have before (i : Nat) (earlier : i < Nat.find free) : s.upcoming base i ∈ taken :=
    not_not.mp (Nat.find_min free earlier)
  refine ⟨Nat.find free, Nat.find_spec free, before, ?_⟩
  rw [fresh, if_pos used]
  exact drawUntilFree_eq (lt_of_le_of_lt (Nat.find_min' free escape) inside) before
    (Nat.find_spec free)

end Suffixes

/-! ### Tokens of eight hexadecimal digits -/

namespace SuffixSupply

def hexToken (word : BitVec 32) : String :=
  String.ofList ((List.range 8).map (fun i => Nat.digitChar (word.toNat / 16 ^ (7 - i) % 16)))

theorem digitChar_inj : ∀ a < 16, ∀ b < 16, Nat.digitChar a = Nat.digitChar b → a = b := by
  decide

/-- A number is known by its digits. -/
theorem eq_of_digits (n : Nat) {v w : Nat} (v_lt : v < 16 ^ n) (w_lt : w < 16 ^ n)
    (digits : ∀ i < n, v / 16 ^ i % 16 = w / 16 ^ i % 16) : v = w := by
  induction n generalizing v w with
  | zero =>
    rw [pow_zero] at v_lt w_lt
    omega
  | succ n ih =>
    have last := digits 0 (by omega)
    have rest : v / 16 = w / 16 := by
      refine ih (by omega) (by omega) (fun i inside => ?_)
      simpa [Nat.div_div_eq_div_mul, ← pow_succ'] using digits (i + 1) (by omega)
    rw [pow_zero, Nat.div_one, Nat.div_one] at last
    omega

theorem hexToken_inj {v w : BitVec 32} (h : hexToken v = hexToken w) : v = w := by
  have digits := congrArg String.toList h
  simp only [hexToken, String.toList_ofList, List.map_inj_left, List.mem_range] at digits
  apply BitVec.eq_of_toNat_eq
  refine eq_of_digits 8 v.isLt w.isLt (fun i inside => ?_)
  have same := digits (7 - i) (by omega)
  rw [show 7 - (7 - i) = i by omega] at same
  exact digitChar_inj _ (Nat.mod_lt _ (by omega)) _ (Nat.mod_lt _ (by omega)) same

/-- Tokens of eight hexadecimal digits, drawn in any way. -/
def hexadecimal (draw : String → Nat → BitVec 32) (patience : Nat) : SuffixSupply where
  token := fun base n => hexToken (draw base n)
  patience := fun _ _ _ => patience

end SuffixSupply

namespace Suffixes

variable {draw : String → Nat → BitVec 32} {patience : Nat} {drawn : Dict Nat}
  {taken : List String} {base : String}

/-- Such a supply suffices where more tokens are drawn, no two of them alike, than names are taken. -/
theorem escapes_hexadecimal (more : taken.length < patience)
    (distinct : ∀ i < patience, ∀ j < patience,
      draw base ((drawn.get? base).getD 0 + i) = draw base ((drawn.get? base).getD 0 + j) → i = j) :
    (⟨.hexadecimal draw patience, drawn⟩ : Suffixes).Escapes taken base := by
  refine exists_not_mem_of_injOn _ ?_ more
  intro i inside j inside' same
  exact distinct i inside j inside' (SuffixSupply.hexToken_inj (suffixed_inj same))

/-- If all tokens are drawn in turn, they suffice for fewer names than there are tokens. -/
theorem escapes_hexadecimal_inTurn (room : taken.length < 16 ^ 8) :
    (⟨.hexadecimal (fun _ n => .ofNat 32 n) (16 ^ 8), drawn⟩ : Suffixes).Escapes taken base := by
  apply escapes_hexadecimal room
  intro i inside j inside' same
  have words := congrArg BitVec.toNat same
  simp only [BitVec.toNat_ofNat] at words
  omega

end Suffixes

end Printworks
