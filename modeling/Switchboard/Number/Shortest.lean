import Switchboard.Number.Binary64
import Switchboard.Text.Basic

/-!
# Shortest decimals

The decimal text of a magnitude has the fewest digits that still read back as the same magnitude,
and of those the nearest to it.

* `Binary64.shortest`: the digits and their exponent.
* `Binary64.text`: positional notation from `10 ^ -5` up to below `10 ^ 16`, scientific otherwise.
-/

namespace Switchboard.Binary64

/-- The digits of a natural number in base ten. -/
def decimalDigits (n : Nat) : Text := Nat.toDigits 10 n

/-- The greatest `e` with `10 ^ e` at most the quotient of two positive numbers. -/
def floorLog10 (num den : Nat) : Int :=
  if den ≤ num then (decimalDigits (num / den)).length - 1
  else
    let d := (decimalDigits (den / num)).length
    if den = num * power 10 (d - 1) then 1 - (d : Int) else -(d : Int)

/-- Twice the mantissas of the ends of the interval of numbers that round to `x`, over the exponent
lowered by two. -/
def interval (x : Binary64) : Nat × Nat :=
  let low := if x.mantissa = leastNormal ∧ leastExponent < x.exponent then 1 else 2
  (4 * x.mantissa - low, 4 * x.mantissa + 2)

/-- Whether the fraction `num / den` rounds to `x`.  The ends of the interval belong to it if the
mantissa is even. -/
def readsBack (x : Binary64) (num den : Nat) : Bool :=
  let (low, high) := x.interval
  let e := x.exponent - 2
  let n := num * power 2 (-e).toNat
  let unit := den * power 2 e.toNat
  if x.mantissa % 2 = 0 then low * unit ≤ n && n ≤ high * unit
  else low * unit < n && n < high * unit

/-- The decimal of `n` digits that is nearest to `x` among those that read back, if there is one:
its digits and the exponent of the last of them. -/
def withDigits? (x : Binary64) (top : Int) (n : Nat) : Option (Nat × Int) :=
  let k := top + 1 - n
  let num := x.numerator * power 10 (-k).toNat
  let den := x.denominator * power 10 k.toNat
  let below := num / den
  let reads (d : Nat) : Bool := x.readsBack (d * power 10 k.toNat) (power 10 (-k).toNat)
  match reads below, reads (below + 1) with
  | true, true => some (roundDiv num den, k)
  | true, false => some (below, k)
  | false, true => some (below + 1, k)
  | false, false => none

/-- The fewest digits that read back, with the exponent of the last one. -/
def shortest (x : Binary64) : Nat × Int :=
  let top := floorLog10 x.numerator x.denominator
  ((List.range 17).findSome? fun n => x.withDigits? top (n + 1)).getD (x.mantissa, x.exponent)

/-- The least decimal exponent of positional notation. -/
def leastPositional : Int := -5

/-- The least decimal exponent above those of positional notation. -/
def leastScientific : Int := 16

/-- The text of digits whose first stands for `10 ^ e`. -/
def positional (digits : Text) (e : Int) : Text :=
  if e < 0 then "0.".toList ++ List.replicate (-e - 1).toNat '0' ++ digits
  else if digits.length ≤ e.toNat + 1 then
    digits ++ List.replicate (e.toNat + 1 - digits.length) '0' ++ ".0".toList
  else digits.take (e.toNat + 1) ++ ['.'] ++ digits.drop (e.toNat + 1)

/-- One digit before the point, and the exponent with its sign. -/
def scientific (digits : Text) (e : Int) : Text :=
  digits.take 1 ++ (if digits.length = 1 then [] else '.' :: digits.drop 1) ++
    ['e', if e < 0 then '-' else '+'] ++ decimalDigits e.natAbs

/-- The decimal text of a magnitude. -/
def text (x : Binary64) : Text :=
  if x.mantissa = 0 then "0.0".toList
  else
    let (n, k) := x.shortest
    -- a digit string keeps no zeros at its end
    let all := decimalDigits n
    let e : Int := k + all.length - 1
    let digits := (all.reverse.dropWhile (· == '0')).reverse
    if leastPositional ≤ e ∧ e < leastScientific then positional digits e
    else scientific digits e

end Switchboard.Binary64
