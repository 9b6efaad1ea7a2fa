/-!
This module writes and reads numbers in base sixteen.
-/

namespace Tabular.Text

def hexDigit (n : Nat) : Char :=
  if n < 10 then Char.ofNat (48 + n) else Char.ofNat (87 + n)

/-- This function writes the last `width` digits of a number. -/
def hexDigits : Nat → Nat → List Char
  | 0, _ => []
  | width + 1, n => hexDigits width (n / 16) ++ [hexDigit (n % 16)]

theorem hexDigitsLength (width n : Nat) : (hexDigits width n).length = width := by
  induction width generalizing n with
  | zero => rfl
  | succ width inductionHypothesis => simp [hexDigits, inductionHypothesis]

/-- This function reads one digit, in either case. -/
def hexValue? (c : Char) : Option Nat :=
  if '0' ≤ c ∧ c ≤ '9' then some (c.toNat - 48)
  else if 'a' ≤ c ∧ c ≤ 'f' then some (c.toNat - 87)
  else if 'A' ≤ c ∧ c ≤ 'F' then some (c.toNat - 55)
  else none

/-- This function reads a row of digits and refuses anything else. -/
def hexNumber? (cs : List Char) : Option Nat :=
  cs.foldl (fun number c => do pure ((← number) * 16 + (← hexValue? c))) (some 0)

example : hexDigits 4 0xe9 = "00e9".toList ∧ hexNumber? "00e9".toList = some 0xe9 := by decide

end Tabular.Text
