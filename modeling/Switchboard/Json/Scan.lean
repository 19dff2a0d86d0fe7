import Switchboard.Json.Error
import Switchboard.Text.Digits

/-!
# Reading strings, numbers and words of JSON

A reader takes a value off the front of a text and gives back what follows it.

* `readWord`, `stringBody`, `readNumber`: the readers of what is not nested.
-/

namespace Switchboard.Json

/-- Takes a value off the front of a text. -/
abbrev Reader (α : Type) := Text → Except ReadError (α × Text)

/-- The four blanks of JSON. -/
def isSpace (c : Char) : Bool := c == ' ' || c == '\n' || c == '\t' || c == '\r'

/-- The text without the blanks at its start. -/
def skipSpace (s : Text) : Text := s.dropWhile isSpace

/-- Takes off the rest of a fixed word. -/
def readWord : Text → Text → Except ReadError Text
  | [], s => .ok s
  | _ :: _, [] => .error .endOfText
  | w :: ws, c :: cs => if c = w then readWord ws cs else .error .syntaxError

/-! ## Strings -/

/-- What a backslash and one character stand for. -/
def simpleEscape? : Char → Option Char
  | '"' => some '"'
  | '\\' => some '\\'
  | '/' => some '/'
  | 'b' => some '\x08'
  | 'f' => some '\x0c'
  | 'n' => some '\n'
  | 'r' => some '\r'
  | 't' => some '\t'
  | _ => none

/-- Where the reader stands inside a string. -/
inductive StringState where
  /-- Between characters. -/
  | plain
  /-- Behind a backslash. -/
  | escape
  /-- In a number of base sixteen with `left` digits to come, perhaps behind the first half of a
  pair. -/
  | code (left value : Nat) (half : Option Nat)
  /-- Behind the first half of a pair. -/
  | half (high : Nat)
  /-- Behind the first half of a pair and a backslash. -/
  | halfEscape (high : Nat)
  deriving DecidableEq

/-- A number below the surrogates is a character, a pair of surrogates is one, and no other number
in their range is. -/
def codeStep (value : Nat) : Option Nat → Except ReadError (StringState × Text)
  | none =>
    if 0xDC00 ≤ value ∧ value ≤ 0xDFFF then .error .syntaxError
    else if 0xD800 ≤ value ∧ value ≤ 0xDBFF then .ok (.half value, [])
    else .ok (.plain, [Char.ofNat value])
  | some high =>
    if 0xDC00 ≤ value ∧ value ≤ 0xDFFF then
      .ok (.plain, [Char.ofNat (0x10000 + (high - 0xD800) * 0x400 + (value - 0xDC00))])
    else .error .syntaxError

/-- A number of base sixteen begins, if four bytes are left to hold it. -/
def beginCode (rest : Text) (half : Option Nat) : Except ReadError (StringState × Text) :=
  if rest.size8 < 4 then .error .endOfText else .ok (.code 4 0 half, [])

/-- One character inside a string: the next state, and what the string gains. -/
def stringStep (c : Char) (rest : Text) : StringState → Except ReadError (StringState × Text)
  | .plain =>
    if c = '\\' then .ok (.escape, [])
    else if c.toNat < 0x20 then .error .syntaxError
    else .ok (.plain, [c])
  | .escape =>
    if c = 'u' then beginCode rest none
    else match simpleEscape? c with
      | some d => .ok (.plain, [d])
      | none => .error .syntaxError
  | .code left value half =>
    match hexValue? c with
    | none => .error .syntaxError
    | some d =>
      if left ≤ 1 then codeStep (value * 16 + d) half
      else .ok (.code (left - 1) (value * 16 + d) half, [])
  | .half high => if c = '\\' then .ok (.halfEscape high, []) else .error .syntaxError
  | .halfEscape high => if c = 'u' then beginCode rest (some high) else .error .syntaxError

/-- The string up to the closing quote, from a state inside it. -/
def stringFrom : StringState → Reader Text
  | _, [] => .error .endOfText
  | state, c :: rest =>
    if state = .plain ∧ c = '"' then .ok ([], rest)
    else match stringStep c rest state with
      | .error e => .error e
      | .ok (next, gained) =>
        match stringFrom next rest with
        | .error e => .error e
        | .ok (s, after) => .ok (gained ++ s, after)

/-- The string behind an opening quote. -/
def stringBody : Reader Text := stringFrom .plain

/-! ## Numbers -/

/-- The value of a decimal digit. -/
def digitValue (c : Char) : Nat := c.toNat - '0'.toNat

/-- Adds decimal digits to a number as long as it stays within the limit; the digits that no longer
fit remain. -/
def accumulate (limit : Nat) : Nat → Text → Nat × Text
  | n, [] => (n, [])
  | n, d :: ds =>
    if n * 10 + digitValue d ≤ limit then accumulate limit (n * 10 + digitValue d) ds
    else (n, d :: ds)

/-- The greatest number of 64 bits. -/
def greatest64 : Nat := 18446744073709551615

/-- The greatest exponent that is written out. -/
def greatestExponent : Nat := 2147483647

/-- The digits at the start of a text, and what follows them. -/
def digitSpan (s : Text) : Text × Text := (s.takeWhile Char.isDigit, s.dropWhile Char.isDigit)

/-- The number of double precision of a decimal, if it is not too large. -/
def floatOf (negative : Bool) (digits : Nat) (exponent : Int) (rest : Text) :
    Except ReadError (Number × Text) :=
  match Binary64.ofDecimal? digits exponent with
  | some m => .ok (.float negative m, rest)
  | none => .error .syntaxError

/-- The part of a number behind its `e`. -/
def readExponent (negative : Bool) (digits : Nat) (exponent : Int) (s : Text) :
    Except ReadError (Number × Text) :=
  let (down, s) : Bool × Text := match s with
    | '+' :: r => (false, r)
    | '-' :: r => (true, r)
    | r => (false, r)
  match s with
  | [] => .error .endOfText
  | c :: _ =>
    if !c.isDigit then .error .syntaxError
    else
      let (ds, rest) := digitSpan s
      match accumulate greatestExponent 0 ds with
      | (e, []) => floatOf negative digits (if down then exponent - e else exponent + e) rest
      | (_, _ :: _) =>
        if digits ≠ 0 ∧ !down then .error .syntaxError
        else .ok (.float negative .zero, rest)

/-- What follows the digits of a number of double precision. -/
def readTail (negative : Bool) (digits : Nat) (exponent : Int) :
    Text → Except ReadError (Number × Text)
  | 'e' :: s | 'E' :: s => readExponent negative digits exponent s
  | s => floatOf negative digits exponent s

/-- The part of a number behind its point. -/
def readFraction (negative : Bool) (digits : Nat) (exponent : Int) (s : Text) :
    Except ReadError (Number × Text) :=
  let (ds, rest) := digitSpan s
  match ds, rest with
  | [], [] => .error .endOfText
  | [], _ :: _ => .error .syntaxError
  | ds, rest =>
    let (n, dropped) := accumulate greatest64 digits ds
    readTail negative n (exponent - (ds.length - dropped.length : Nat)) rest

/-- An integer of at most 64 bits; zero with a sign and larger ones are of double precision. -/
def integerOf (negative : Bool) (n : Nat) (rest : Text) : Except ReadError (Number × Text) :=
  if !negative then .ok (.int n, rest)
  else if 0 < n ∧ n ≤ 9223372036854775808 then .ok (.int (-n), rest)
  else floatOf true n 0 rest

/-- A number behind its sign. -/
def readMagnitude (negative : Bool) (s : Text) : Except ReadError (Number × Text) :=
  match s with
  | [] => .error .endOfText
  | c :: cs =>
    if !c.isDigit then .error .syntaxError
    else
      let (ds, rest) := digitSpan s
      if c = '0' ∧ (cs.head?.any Char.isDigit) then .error .syntaxError
      else
        let (n, dropped) := accumulate greatest64 0 ds
        match rest, dropped with
        | '.' :: r, _ => readFraction negative n dropped.length r
        | 'e' :: r, _ | 'E' :: r, _ => readExponent negative n dropped.length r
        | r, [] => integerOf negative n r
        | r, _ :: _ => floatOf negative n dropped.length r

/-- A number. -/
def readNumber : Reader Number
  | '-' :: s => readMagnitude true s
  | s => readMagnitude false s

end Switchboard.Json
