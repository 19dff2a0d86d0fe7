import Switchboard.Text.Basic

/-!
# UTF-8

* `Utf8.decode`: the text of a list of bytes, or where they stop being one.
* `Utf8.encode`: the bytes of a text.
-/

namespace Switchboard

/-- Where bytes stop being UTF-8. -/
structure Utf8Error where
  /-- The number of bytes before the fault. -/
  index : Nat
  /-- The number of faulty bytes; none if the last character is cut off. -/
  length : Option Nat
  deriving DecidableEq, Repr

/-- The wording of the error. -/
def Utf8Error.message (e : Utf8Error) : Text :=
  match e.length with
  | some n =>
    "invalid utf-8 sequence of ".toList ++ Nat.toDigits 10 n ++ " bytes from index ".toList ++
      Nat.toDigits 10 e.index
  | none => "incomplete utf-8 byte sequence from index ".toList ++ Nat.toDigits 10 e.index

namespace Utf8

/-- The number of bytes that a first byte announces, with the range of the second byte; the ranges
leave out overlong forms, surrogates and numbers that are too large. -/
def announced (b : UInt8) : Option (Nat × UInt8 × UInt8) :=
  if b < 0x80 then some (1, 0, 0)
  else if 0xC2 ≤ b ∧ b ≤ 0xDF then some (2, 0x80, 0xBF)
  else if b = 0xE0 then some (3, 0xA0, 0xBF)
  else if b = 0xED then some (3, 0x80, 0x9F)
  else if 0xE1 ≤ b ∧ b ≤ 0xEF then some (3, 0x80, 0xBF)
  else if b = 0xF0 then some (4, 0x90, 0xBF)
  else if b = 0xF4 then some (4, 0x80, 0x8F)
  else if 0xF1 ≤ b ∧ b ≤ 0xF3 then some (4, 0x80, 0xBF)
  else none

/-- The bits of a first byte that belong to the character. -/
def leadBits (b : UInt8) (size : Nat) : Nat :=
  if size = 1 then b.toNat else b.toNat % (1 <<< (7 - size))

/-- The character that `have` bytes and the bytes still to come make up, and what follows.  The
second byte has a range of its own. -/
def continuation (have_ left value : Nat) (low high : UInt8) :
    List UInt8 → Except (Option Nat) (Char × List UInt8)
  | bytes =>
    match left, bytes with
    | 0, rest => .ok (Char.ofNat value, rest)
    | _ + 1, [] => .error none
    | left + 1, b :: rest =>
      if low ≤ b ∧ b ≤ high then
        continuation (have_ + 1) left (value * 64 + b.toNat % 64) 0x80 0xBF rest
      else .error (some have_)

/-- The first character of a list of bytes and what follows; on a fault the number of faulty bytes. -/
def decodeChar : List UInt8 → Except (Option Nat) (Char × List UInt8)
  | [] => .error none
  | b :: rest =>
    match announced b with
    | none => .error (some 1)
    | some (size, low, high) => continuation 1 (size - 1) (leadBits b size) low high rest

/-- The text of bytes from an index on, with fuel for each byte. -/
def decodeFrom : Nat → Nat → List UInt8 → Except Utf8Error Text
  | _, _, [] => .ok []
  | 0, index, _ => .error { index, length := none }
  | fuel + 1, index, b :: bytes =>
    match decodeChar (b :: bytes) with
    | .error length => .error { index, length }
    | .ok (c, rest) => (c :: ·) <$> decodeFrom fuel (index + c.utf8Size) rest

/-- The text of a list of bytes. -/
def decode (bytes : List UInt8) : Except Utf8Error Text := decodeFrom bytes.length 0 bytes

/-- The bytes of a text. -/
def encode (s : Text) : List UInt8 := s.flatMap String.utf8EncodeChar

end Utf8

end Switchboard
