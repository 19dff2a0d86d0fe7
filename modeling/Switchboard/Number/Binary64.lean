/-!
# Binary numbers of double precision

A magnitude is `mantissa * 2 ^ exponent` with a mantissa below `2 ^ 53`.  All arithmetic is exact on
natural numbers and rounded once, to the nearest number and from the middle to the even one.

* `Binary64.nearest?`: the number nearest to a quotient, unless it is too large.
* `Binary64.mul?`, `Binary64.div?`: rounded product and quotient.
* `Binary64.ofDecimal?`: the magnitude that a decimal literal is read as.
-/

namespace Switchboard

/-- The quotient rounded to the nearest integer, from the middle to the even one. -/
def roundDiv (num den : Nat) : Nat :=
  let q := num / den
  let twice := 2 * (num % den)
  if twice < den then q else if den < twice then q + 1 else q + q % 2

/-- The power `b ^ n` of natural numbers. -/
def power (b n : Nat) : Nat := Nat.pow b n

/-- A magnitude of double precision: `mantissa * 2 ^ exponent`. -/
structure Binary64 where
  mantissa : Nat
  exponent : Int
  deriving DecidableEq, Repr

namespace Binary64

/-- The least exponent. -/
def leastExponent : Int := -1074

/-- The greatest exponent. -/
def greatestExponent : Int := 971

/-- The least mantissa, `2 ^ 52`, of a number above the least exponent. -/
def leastNormal : Nat := 4503599627370496

/-- Zero. -/
def zero : Binary64 := ⟨0, leastExponent⟩

/-- The greatest `e` with `2 ^ e` at most the quotient of two positive numbers. -/
def floorLog2 (num den : Nat) : Int :=
  let guess : Int := (num.log2 : Int) - den.log2
  if den * power 2 guess.toNat ≤ num * power 2 (-guess).toNat then guess else guess - 1

/-- The number nearest to `num / den`, or nothing if it would be too large. -/
def nearest? (num den : Nat) : Option Binary64 :=
  if num = 0 then some zero
  else
    let e := max leastExponent (floorLog2 num den - 52)
    let q := roundDiv (num * power 2 (-e).toNat) (den * power 2 e.toNat)
    let r : Binary64 := if q = 2 * leastNormal then ⟨leastNormal, e + 1⟩ else ⟨q, e⟩
    if greatestExponent < r.exponent then none else some r

/-- The numerator of the magnitude over the power of two `denominator`. -/
def numerator (x : Binary64) : Nat := x.mantissa * power 2 x.exponent.toNat

/-- The power of two under `numerator`. -/
def denominator (x : Binary64) : Nat := power 2 (-x.exponent).toNat

/-- The rounded product. -/
def mul? (x y : Binary64) : Option Binary64 :=
  nearest? (x.numerator * y.numerator) (x.denominator * y.denominator)

/-- The rounded quotient by a number other than zero. -/
def div? (x y : Binary64) : Option Binary64 :=
  nearest? (x.numerator * y.denominator) (x.denominator * y.numerator)

/-- The number nearest to a power of ten. -/
def powerOfTen? (n : Nat) : Option Binary64 := nearest? (power 10 n) 1

/-- The greatest power of ten in range. -/
def greatestPower : Nat := 308

/-- The magnitude with its decimal exponent lowered by `n`, in steps of at most `greatestPower`. -/
def scaleDown (x : Binary64) (n : Nat) : Option Binary64 :=
  if n ≤ greatestPower then powerOfTen? n >>= x.div?
  else if x.mantissa = 0 then some x
  else do
    let p ← powerOfTen? greatestPower
    let y ← x.div? p
    scaleDown y (n - greatestPower)
termination_by n
decreasing_by simp [greatestPower] at *; omega

/-- A decimal literal `digits * 10 ^ exponent` as a magnitude: the digits and the power of ten are
each rounded, and so is their product or quotient.  Nothing if that is too large. -/
def ofDecimal? (digits : Nat) (exponent : Int) : Option Binary64 := do
  let x ← nearest? digits 1
  if 0 ≤ exponent then
    if exponent.toNat ≤ greatestPower then powerOfTen? exponent.toNat >>= x.mul?
    else if x.mantissa = 0 then some x else none
  else scaleDown x (-exponent).toNat

end Binary64

end Switchboard
