/-!
# Code units

Characters beyond the first plane are written as two units of sixteen bits each, a high half and a
low half. Units are written in hexadecimal digits.
-/

namespace Printworks.Text

def hexValue? (c : Char) : Option Nat :=
  if '0' ≤ c ∧ c ≤ '9' then some (c.toNat - 48)
  else if 'a' ≤ c ∧ c ≤ 'f' then some (c.toNat - 87)
  else if 'A' ≤ c ∧ c ≤ 'F' then some (c.toNat - 55)
  else none

/-- Whether a unit is the first half of a pair. -/
def isHighHalf (unit : Nat) : Bool := decide (0xD800 ≤ unit ∧ unit < 0xDC00)

/-- Whether a unit is the second half of a pair. -/
def isLowHalf (unit : Nat) : Bool := decide (0xDC00 ≤ unit ∧ unit < 0xE000)

/-- The character of a pair. -/
def joinHalves (high low : Nat) : Char :=
  Char.ofNat (0x10000 + (high - 0xD800) * 0x400 + (low - 0xDC00))

/-- The value of one more digit in some base, after a number that is already read. -/
def appendDigit? (base value : Nat) (c : Char) : Option Nat := do
  let d ← hexValue? c
  if d < base then some (value * base + d) else none

/-- The number that digits write in a base up to sixteen. There has to be a digit. -/
def readRadix? (base : Nat) (cs : List Char) : Option Nat :=
  if cs.isEmpty then none else cs.foldlM (appendDigit? base) 0

/-- The number that digits write in a base up to sixteen, a plus sign before them being allowed. -/
def readPlusRadix? (base : Nat) (cs : List Char) : Option Nat :=
  match cs with
  | '+' :: digits => readRadix? base digits
  | digits => readRadix? base digits

example : readPlusRadix? 16 ['+', '0', '4', 'a'] = some 74 := by decide
example : readRadix? 8 ['8'] = none := by decide

end Printworks.Text
