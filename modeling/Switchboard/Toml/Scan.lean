import Switchboard.Number.Binary64
import Switchboard.Text.Digits
import Switchboard.Toml.Value

/-!
# Reading TOML words

A reader takes something off the front of a text and gives back what follows, or nothing if the text
does not start with it.

* `readKey`: a key of one or more parts.
* `readString`: a string of one of the four kinds.
* `readNumber`, `readTime`: numbers and times, which are only checked.
-/

namespace Switchboard.Toml

/-- Takes something off the front of a text. -/
abbrev Reader (α : Type) := Text → Option (α × Text)

/-! ## Characters -/

/-- The blanks within a line. -/
def isSpace (c : Char) : Bool := c == ' ' || c == '\t'

/-- Characters of comments: all but controls. -/
def isCommentChar (c : Char) : Bool := c == '\t' || (0x20 ≤ c.toNat && c.toNat != 0x7F)

/-- Characters that stand for themselves in strings in double quotes. -/
def isBasicChar (c : Char) : Bool := isCommentChar c && c != '"' && c != '\\'

/-- Characters of strings in single quotes. -/
def isLiteralChar (c : Char) : Bool := isCommentChar c && c != '\''

/-- Characters of keys without quotes. -/
def isBareChar (c : Char) : Bool := c.isAlphanum || c == '_' || c == '-'

/-- The text behind blanks within a line. -/
def skipSpace (s : Text) : Text := s.dropWhile isSpace

/-- The text behind a line end. -/
def newline? : Text → Option Text
  | '\n' :: rest => some rest
  | '\r' :: '\n' :: rest => some rest
  | _ => none

/-- The text behind a comment, if there is one. -/
def skipComment : Text → Text
  | '#' :: rest => rest.dropWhile isCommentChar
  | s => s

/-- The text behind what may follow on a line: blanks, a comment, and the line's end. -/
def lineEnd? (s : Text) : Option Text :=
  match skipComment (skipSpace s) with
  | [] => some []
  | s => newline? s

/-- The text behind blanks, comments and line ends; fuel for each of them. -/
def skipLinesWith : Nat → Text → Text
  | 0, s => s
  | fuel + 1, s =>
    let s := skipComment (skipSpace s)
    match newline? s with
    | some rest => skipLinesWith fuel rest
    | none => s

/-- The text behind blanks, comments and line ends. -/
def skipLines (s : Text) : Text := skipLinesWith (s.length + 1) s

/-! ## Strings -/

/-- The character of exactly `n` digits of base sixteen. -/
def codeChar? (n : Nat) (s : Text) : Option (Char × Text) := do
  let digits ← (s.take n).mapM hexValue?
  let code := digits.foldl (fun n d => n * 16 + d) 0
  if digits.length = n ∧ code.isValidChar then some (Char.ofNat code, s.drop n) else none

/-- The character behind a backslash. -/
def escape? : Reader Char
  | 'b' :: s => some ('\x08', s)
  | 't' :: s => some ('\t', s)
  | 'n' :: s => some ('\n', s)
  | 'f' :: s => some ('\x0c', s)
  | 'r' :: s => some ('\r', s)
  | '"' :: s => some ('"', s)
  | '\\' :: s => some ('\\', s)
  | 'u' :: s => codeChar? 4 s
  | 'U' :: s => codeChar? 8 s
  | _ => none

/-- A string in double quotes, behind the opening one; fuel for each character. -/
def basicBody : Nat → Reader Text
  | 0, _ => none
  | _ + 1, [] => none
  | fuel + 1, c :: s =>
    if c = '"' then some ([], s)
    else if c = '\\' then do
      let (d, s) ← escape? s
      let (t, s) ← basicBody fuel s
      return (d :: t, s)
    else if isBasicChar c then do
      let (t, s) ← basicBody fuel s
      return (c :: t, s)
    else none

/-- A string in single quotes, behind the opening one. -/
def literalBody (s : Text) : Option (Text × Text) :=
  match s.dropWhile isLiteralChar with
  | '\'' :: rest => some (s.takeWhile isLiteralChar, rest)
  | _ => none

/-- The end of a string of several lines: three quotes, before which up to two more belong to the
string. -/
def closing? (quote : Char) (s : Text) : Option (Text × Text) :=
  let quotes := (s.takeWhile (· == quote)).length
  if quotes < 3 then none
  else
    let inside := min (quotes - 3) 2
    some (List.replicate inside quote, s.drop (inside + 3))

/-- The text behind blanks and line ends; fuel for each of them. -/
def skipBlankLinesWith : Nat → Text → Text
  | 0, s => s
  | fuel + 1, s =>
    match newline? (skipSpace s) with
    | some rest => skipBlankLinesWith fuel rest
    | none => skipSpace s

/-- The text behind a line end that is left out, together with the blanks around it. -/
def joinedLine? (s : Text) : Option Text := do
  let rest ← newline? (skipSpace s)
  return skipBlankLinesWith (rest.length + 1) rest

/-- A string of several lines in double quotes, behind the opening ones; fuel for each character. -/
def basicLines : Nat → Reader Text
  | 0, _ => none
  | fuel + 1, s =>
    match closing? '"' s with
    | some r => some r
    | none =>
      match s with
      | [] => none
      | '\\' :: rest =>
        match joinedLine? rest with
        | some rest => basicLines fuel rest
        | none => do
          let (d, rest) ← escape? rest
          let (t, rest) ← basicLines fuel rest
          return (d :: t, rest)
      | c :: rest =>
        match newline? s with
        | some rest => do
          let (t, rest) ← basicLines fuel rest
          return ('\n' :: t, rest)
        | none =>
          if c = '"' ∨ isBasicChar c then do
            let (t, rest) ← basicLines fuel rest
            return (c :: t, rest)
          else none

/-- A string of several lines in single quotes, behind the opening ones; fuel for each character. -/
def literalLines : Nat → Reader Text
  | 0, _ => none
  | fuel + 1, s =>
    match closing? '\'' s with
    | some r => some r
    | none =>
      match s with
      | [] => none
      | c :: rest =>
        match newline? s with
        | some rest => do
          let (t, rest) ← literalLines fuel rest
          return ('\n' :: t, rest)
        | none =>
          if c = '\'' ∨ isLiteralChar c then do
            let (t, rest) ← literalLines fuel rest
            return (c :: t, rest)
          else none

/-- The text behind a line end at its start, if there is one. -/
def afterFirstNewline (s : Text) : Text := (newline? s).getD s

/-- A string of any kind. -/
def readString : Reader Text
  | '"' :: '"' :: '"' :: s => basicLines (s.length + 1) (afterFirstNewline s)
  | '\'' :: '\'' :: '\'' :: s => literalLines (s.length + 1) (afterFirstNewline s)
  | '"' :: s => basicBody (s.length + 1) s
  | '\'' :: s => literalBody s
  | _ => none

/-! ## Keys -/

/-- One part of a key. -/
def readKeyPart : Reader Text
  | '"' :: s => basicBody (s.length + 1) s
  | '\'' :: s => literalBody s
  | s =>
    match s.takeWhile isBareChar with
    | [] => none
    | part => some (part, s.dropWhile isBareChar)

/-- The parts of a key with dots between them, and blanks around; fuel for each part. -/
def readKeyParts : Nat → Reader (List Text)
  | 0, _ => none
  | fuel + 1, s => do
    let (part, s) ← readKeyPart (skipSpace s)
    match skipSpace s with
    | '.' :: s =>
      let (parts, s) ← readKeyParts fuel s
      return (part :: parts, s)
    | s => return ([part], s)

/-- The least number of parts, and of values inside one another, that is too much. -/
def depthLimit : Nat := 80

/-- A key as its parts. -/
def readKey : Reader (List Text) := fun s => do
  let (parts, rest) ← readKeyParts (s.length + 1) s
  if parts.length < depthLimit then some (parts, rest) else none

/-! ## Numbers -/

/-- Digits of a kind with single underscores between them, behind the first one: the digits
without the underscores. -/
def moreDigits (isDigit : Char → Bool) : Text → Option (Text × Text)
  | [] => some ([], [])
  | '_' :: c :: s =>
    if isDigit c then (fun (ds, r) => (c :: ds, r)) <$> moreDigits isDigit s else none
  | '_' :: [] => none
  | c :: s =>
    if isDigit c then (fun (ds, r) => (c :: ds, r)) <$> moreDigits isDigit s
    else some ([], c :: s)

/-- One or more digits of a kind with single underscores between them. -/
def readDigits (isDigit : Char → Bool) : Reader Text
  | [] => none
  | c :: s =>
    if isDigit c then (fun (ds, r) => (c :: ds, r)) <$> moreDigits isDigit s else none

/-- The text behind a sign, and whether it is a minus. -/
def readSign : Text → Bool × Text
  | '-' :: s => (true, s)
  | '+' :: s => (false, s)
  | s => (false, s)

/-- Decimal digits that do not start with a zero, unless that is all. -/
def readDecimal : Reader Text
  | '0' :: s => some (['0'], s)
  | s => readDigits Char.isDigit s

/-- The greatest integer, `2 ^ 63 - 1`. -/
def greatestInteger : Nat := 9223372036854775807

/-- An integer with the mark of its base, which has to fit 63 bits. -/
def readBased : Reader Unit
  | '0' :: 'x' :: s => based 16 s
  | '0' :: 'o' :: s => based 8 s
  | '0' :: 'b' :: s => based 2 s
  | _ => none
where
  /-- Digits of a base. -/
  based (base : Nat) (s : Text) : Option (Unit × Text) := do
    let (ds, rest) ← readDigits (fun c => (hexValue? c).any (· < base)) s
    if Text.valueOf base ds ≤ greatestInteger then some ((), rest) else none

/-- The exponent of a number. -/
def readExponent : Reader Int
  | 'e' :: s | 'E' :: s => do
    let (negative, s) := readSign s
    let (ds, rest) ← readDigits Char.isDigit s
    let n : Int := Text.valueOf 10 ds
    return (if negative then -n else n, rest)
  | _ => none

/-- Whether `digits * 10 ^ exponent` is beyond the numbers of double precision. -/
def tooLarge (digits : Text) (exponent : Int) : Bool :=
  let digits := digits.dropWhile (· == '0')
  let top := exponent + digits.length
  if digits.isEmpty ∨ top < 300 then false
  else if 320 < top then true
  else (Binary64.nearest? (Text.valueOf 10 digits * power 10 exponent.toNat)
    (power 10 (-exponent).toNat)).isNone

/-- A number with a fraction, an exponent or both.  Positive ones have to be in range. -/
def readFloat : Reader Unit := fun s => do
  let (negative, s) := readSign s
  let (whole, s) ← readDecimal s
  let (fraction, s, marked) ← match s with
    | '.' :: r => (fun (ds, r) => (ds, r, true)) <$> readDigits Char.isDigit r
    | s => some ([], s, false)
  let (exponent, s) ← match readExponent s with
    | some r => some r
    | none => if marked then some (0, s) else none
  if !negative && tooLarge (whole ++ fraction) (exponent - fraction.length) then none
  else return ((), s)

/-- An integer of at most 64 bits in base ten. -/
def readInteger : Reader Unit := fun s => do
  let (negative, s) := readSign s
  let (ds, rest) ← readDecimal s
  let n := Text.valueOf 10 ds
  if n ≤ greatestInteger ∨ (negative ∧ n = greatestInteger + 1) then some ((), rest) else none

/-- Infinity or no number. -/
def readSpecial : Reader Unit := fun s =>
  match (readSign s).2 with
  | 'i' :: 'n' :: 'f' :: rest => some ((), rest)
  | 'n' :: 'a' :: 'n' :: rest => some ((), rest)
  | _ => none

/-- A number of any kind. -/
def readNumber : Reader Unit := fun s =>
  readFloat s <|> readSpecial s <|> readBased s <|> readInteger s

/-! ## Times -/

/-- A number of exactly `n` decimal digits within limits. -/
def fixedDigits (n low high : Nat) (s : Text) : Option (Nat × Text) :=
  let ds := s.take n
  if ds.length = n ∧ ds.all Char.isDigit ∧ low ≤ Text.valueOf 10 ds ∧ Text.valueOf 10 ds ≤ high then
    some (Text.valueOf 10 ds, s.drop n)
  else none

/-- The text behind a character. -/
def behind (c : Char) : Text → Option Text
  | [] => none
  | d :: s => if d = c then some s else none

/-- The number of days of a month. -/
def daysOf (year month : Nat) : Nat :=
  if month = 2 then
    if year % 4 = 0 ∧ (year % 100 ≠ 0 ∨ year % 400 = 0) then 29 else 28
  else if month = 4 ∨ month = 6 ∨ month = 9 ∨ month = 11 then 30
  else 31

/-- A date. -/
def readDate : Reader Unit := fun s => do
  let (year, s) ← fixedDigits 4 0 9999 s
  let s ← behind '-' s
  let (month, s) ← fixedDigits 2 1 12 s
  let s ← behind '-' s
  let (_, s) ← fixedDigits 2 1 (daysOf year month) s
  return ((), s)

/-- A time of day. -/
def readClock : Reader Unit := fun s => do
  let (_, s) ← fixedDigits 2 0 23 s
  let s ← behind ':' s
  let (_, s) ← fixedDigits 2 0 59 s
  let s ← behind ':' s
  let (_, s) ← fixedDigits 2 0 60 s
  match s with
  | '.' :: r =>
    if (r.head?.any Char.isDigit) then some ((), r.dropWhile Char.isDigit) else none
  | s => some ((), s)

/-- The offset of a time zone. -/
def readOffset : Reader Unit := fun s =>
  match s with
  | 'Z' :: rest | 'z' :: rest => some ((), rest)
  | '+' :: s | '-' :: s => do
    let (_, s) ← fixedDigits 2 0 23 s
    let s ← behind ':' s
    let (_, s) ← fixedDigits 2 0 59 s
    return ((), s)
  | _ => none

/-- A date, a time of day, or both, these perhaps with an offset. -/
def readTime : Reader Unit := fun s =>
  match readDate s with
  | none => readClock s
  | some ((), rest) =>
    let clock := match rest with
      | 'T' :: r | 't' :: r | ' ' :: r => readClock r
      | _ => none
    match clock with
    | none => some ((), rest)
    | some ((), rest) => readOffset rest <|> some ((), rest)

end Switchboard.Toml
