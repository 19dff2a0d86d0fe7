import Switchboard.Text.Basic

/-!
# Ranges of numbers

Sets of characters are kept as increasing lists of ranges of their numbers.
-/

namespace Switchboard

/-- Whether `n` lies in one of the ranges, which are in increasing order and hold both their ends. -/
def inRanges : List (Nat × Nat) → Nat → Bool
  | [], _ => false
  | (low, high) :: ranges, n => if n < low then false else n ≤ high || inRanges ranges n

end Switchboard
