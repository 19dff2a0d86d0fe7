import Switchboard.Log
import Switchboard.Number.Binary64
import Switchboard.Regex.Read

/-!
# Expected values

What a directive expects of a field: a flag, a number, or a text that a regular expression is found
in.

* `Expected.parse`: the expectation that a text stands for.
* `Expected.isMetBy`: whether a value is as expected.
-/

namespace Switchboard

/-- What a value is expected to be. -/
inductive Expected where
  | flag (b : Bool)
  | natural (n : Nat)
  | integer (n : Int)
  /-- A number of double precision, or one that is beyond them all. -/
  | real (negative : Bool) (magnitude : Option Binary64)
  | notANumber
  /-- A text in which the expression of a pattern is found. -/
  | text (pattern : Text) (expression : Regex)
  deriving DecidableEq

namespace Expected

/-! ## Reading -/

/-- A text behind a sign, and whether that is a minus. -/
def readSign : Text → Bool × Text
  | '-' :: s => (true, s)
  | '+' :: s => (false, s)
  | s => (false, s)

/-- The greatest natural number of 64 bits. -/
def greatestNatural : Nat := 18446744073709551615

/-- The greatest magnitude of an integer of 64 bits, which a negative one has. -/
def greatestMagnitude : Nat := 9223372036854775808

/-- A natural number, perhaps with a plus. -/
def natural? (s : Text) : Option Expected := do
  let n ← Text.natural? (if s.head? = some '+' then s.tail else s)
  if n ≤ greatestNatural then some (.natural n) else none

/-- An integer with a minus. -/
def negative? : Text → Option Expected
  | '-' :: s => do
    let n ← Text.natural? s
    if n ≤ greatestMagnitude then some (.integer (-n)) else none
  | _ => none

/-- The number of double precision nearest to a decimal, unless it is too large. -/
def nearest? (digits : Text) (exponent : Int) : Option Binary64 :=
  let digits := digits.dropWhile (· == '0')
  let top := exponent + digits.length
  if digits.isEmpty ∨ top < -400 then some .zero
  else if 400 < top then none
  else Binary64.nearest? (Text.valueOf 10 digits * power 10 exponent.toNat)
    (power 10 (-exponent).toNat)

/-- The exponent of a number, if there is one. -/
def exponent? : Text → Option Int
  | [] => some 0
  | c :: s =>
    if c = 'e' ∨ c = 'E' then
      let (negative, s) := readSign s
      (Text.natural? s).map fun n => if negative then -n else n
    else none

/-- A number with a sign, a fraction and an exponent, of which some may be missing, or a word for what
is no such number. -/
def real? (s : Text) : Option Expected := do
  let (negative, s) := readSign s
  let word := s.map Char.toLower
  if word = "nan".toList then some .notANumber
  else if word = "inf".toList ∨ word = "infinity".toList then some (.real negative none)
  else do
    let whole := s.takeWhile Char.isDigit
    let rest := s.drop whole.length
    let fraction := match rest with
      | '.' :: r => r.takeWhile Char.isDigit
      | _ => []
    if whole.isEmpty ∧ fraction.isEmpty then none
    let rest := if rest.head? = some '.' then rest.drop (fraction.length + 1) else rest
    let exponent ← exponent? rest
    let magnitude := nearest? (whole ++ fraction) (exponent - fraction.length)
    some (.real (negative && magnitude != some .zero) magnitude)

/-- The expectation that a text stands for: the first of all kinds that it can be read as. -/
def parse (s : Text) : Except RegexError Expected :=
  if s = "true".toList then .ok (.flag true)
  else if s = "false".toList then .ok (.flag false)
  else match natural? s <|> negative? s <|> real? s with
    | some e => .ok e
    | none => .text s <$> Regex.parse s

/-! ## Values -/

/-- Whether a value is as expected; numbers are only ever natural ones. -/
def isMetBy : Expected → FieldValue → Bool
  | flag b, .flag c => b == c
  | natural n, .count m => n == m
  | text _ r, .quoted s | text _ r, .shown s => r.lastsIn s
  | _, _ => false

end Expected

end Switchboard
