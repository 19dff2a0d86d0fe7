import Switchboard.Text.Basic

/-!
# Digits

Numbers as digits of a base, the most significant first.

* `Text.valueOf`: the number of digits; `Text.natural?`: the number of a text of decimal digits.
* `Text.hexDigits`: the digits of a number in base sixteen.
-/

namespace Switchboard

/-- The value of a digit of base sixteen. -/
def hexValue? (c : Char) : Option Nat :=
  if '0' ≤ c ∧ c ≤ '9' then some (c.toNat - '0'.toNat)
  else if 'a' ≤ c ∧ c ≤ 'f' then some (c.toNat - 'a'.toNat + 10)
  else if 'A' ≤ c ∧ c ≤ 'F' then some (c.toNat - 'A'.toNat + 10)
  else none

namespace Text

/-- The number of digits in a base. -/
def valueOf (base : Nat) (digits : Text) : Nat :=
  digits.foldl (fun n d => n * base + (hexValue? d).getD 0) 0

/-- The number of a text that has decimal digits and nothing else. -/
def natural? (s : Text) : Option Nat :=
  if s ≠ [] ∧ s.all Char.isDigit then some (valueOf 10 s) else none

/-- The digits of a number in base sixteen, in lower case. -/
def hexDigits (n : Nat) : Text := Nat.toDigits 16 n

end Text

end Switchboard
