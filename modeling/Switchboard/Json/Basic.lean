import Switchboard.KeyMap
import Switchboard.Number.Shortest

/-!
# JSON values

* `Json`: values; an object is a list of members in increasing order of their keys.
* `Json.write`: the compact text of a value.
* `Json.agrees`: equality of values that does not tell the two zeros apart.
-/

namespace Switchboard

/-- A JSON number: an integer of at most 64 bits, or a number of double precision. -/
inductive Number where
  | int (i : Int)
  | float (negative : Bool) (magnitude : Binary64)
  deriving DecidableEq, Repr

/-- A JSON value. -/
inductive Json where
  | null
  | bool (b : Bool)
  | number (n : Number)
  | string (s : Text)
  | array (items : List Json)
  | object (members : List (Text × Json))
  deriving Repr, Inhabited

/-! ## Numbers -/

namespace Number

/-- The text of a number. -/
def write : Number → Text
  | int i => if i < 0 then '-' :: Binary64.decimalDigits i.natAbs
      else Binary64.decimalDigits i.natAbs
  | float negative m => if negative then '-' :: m.text else m.text

/-- Equality as numbers of one kind: the sign of a zero does not count. -/
def agrees : Number → Number → Bool
  | int i, int j => i == j
  | float n x, float n' y => x == y && (n == n' || x.mantissa == 0)
  | _, _ => false

end Number

namespace Json

/-! ## Building -/

/-- The object of members of which a later one replaces an earlier one of the same key. -/
def ofMembers (ms : List (Text × Json)) : Json := object (KeyMap.ofList ms).entries

/-- The value of a key, if this is an object that has it. -/
def member? (key : Text) : Json → Option Json
  | object members => Entries.find? key members
  | _ => none

/-! ## Strings -/

/-- A digit of base sixteen. -/
def hexDigit (n : Nat) : Char := Nat.digitChar n

/-- The written form of a character in a string.  What has to be escaped is the quote, the backslash
and the characters below the space. -/
def writeChar (c : Char) : Text :=
  if c = '"' then "\\\"".toList
  else if c = '\\' then "\\\\".toList
  else if c = '\n' then "\\n".toList
  else if c = '\r' then "\\r".toList
  else if c = '\t' then "\\t".toList
  else if c = '\x08' then "\\b".toList
  else if c = '\x0c' then "\\f".toList
  else if c.toNat < 0x20 then "\\u00".toList ++ [hexDigit (c.toNat / 16), hexDigit (c.toNat % 16)]
  else [c]

/-- The written form of a string. -/
def writeString (s : Text) : Text := '"' :: s.flatMap writeChar ++ ['"']

/-! ## Values -/

mutual

/-- The compact text of a value. -/
def write : Json → Text
  | null => "null".toList
  | bool true => "true".toList
  | bool false => "false".toList
  | number n => n.write
  | string s => writeString s
  | array items => '[' :: writeItems items ++ [']']
  | object members => '\x7b' :: writeMembers members ++ ['\x7d']

/-- The items of an array with commas between them. -/
def writeItems : List Json → Text
  | [] => []
  | [v] => v.write
  | v :: vs => v.write ++ ',' :: writeItems vs

/-- The members of an object with commas between them. -/
def writeMembers : List (Text × Json) → Text
  | [] => []
  | [(k, v)] => writeString k ++ ':' :: v.write
  | (k, v) :: ms => writeString k ++ ':' :: v.write ++ ',' :: writeMembers ms

end

mutual

/-- Equality up to the signs of zeros. -/
def agrees : Json → Json → Bool
  | null, null => true
  | bool a, bool b => a == b
  | number m, number n => m.agrees n
  | string s, string t => s == t
  | array xs, array ys => agreeItems xs ys
  | object xs, object ys => agreeMembers xs ys
  | _, _ => false

/-- Item by item. -/
def agreeItems : List Json → List Json → Bool
  | [], [] => true
  | x :: xs, y :: ys => x.agrees y && agreeItems xs ys
  | _, _ => false

/-- Member by member. -/
def agreeMembers : List (Text × Json) → List (Text × Json) → Bool
  | [], [] => true
  | (k, x) :: xs, (l, y) :: ys => k == l && x.agrees y && agreeMembers xs ys
  | _, _ => false

end

mutual

/-- Equality of values is decidable. -/
def decEq : (x y : Json) → Decidable (x = y)
  | null, null => .isTrue rfl
  | bool a, bool b => decidable_of_iff (a = b) (by simp)
  | number m, number n => decidable_of_iff (m = n) (by simp)
  | string s, string t => decidable_of_iff (s = t) (by simp)
  | array xs, array ys => have := decEqItems xs ys; decidable_of_iff (xs = ys) (by simp)
  | object xs, object ys => have := decEqMembers xs ys; decidable_of_iff (xs = ys) (by simp)
  | null, bool _ | null, number _ | null, string _ | null, array _ | null, object _
  | bool _, null | bool _, number _ | bool _, string _ | bool _, array _ | bool _, object _
  | number _, null | number _, bool _ | number _, string _ | number _, array _ | number _, object _
  | string _, null | string _, bool _ | string _, number _ | string _, array _ | string _, object _
  | array _, null | array _, bool _ | array _, number _ | array _, string _ | array _, object _
  | object _, null | object _, bool _ | object _, number _ | object _, string _
  | object _, array _ => .isFalse (by simp)

/-- Equality of items is decidable. -/
def decEqItems : (xs ys : List Json) → Decidable (xs = ys)
  | [], [] => .isTrue rfl
  | [], _ :: _ | _ :: _, [] => .isFalse (by simp)
  | x :: xs, y :: ys =>
    have := decEq x y
    have := decEqItems xs ys
    decidable_of_iff (x = y ∧ xs = ys) (by simp)

/-- Equality of members is decidable. -/
def decEqMembers : (xs ys : List (Text × Json)) → Decidable (xs = ys)
  | [], [] => .isTrue rfl
  | [], _ :: _ | _ :: _, [] => .isFalse (by simp)
  | (k, x) :: xs, (l, y) :: ys =>
    have := decEq x y
    have := decEqMembers xs ys
    decidable_of_iff (k = l ∧ x = y ∧ xs = ys) (by simp [and_assoc])

end

instance : DecidableEq Json := decEq

end Json

end Switchboard
