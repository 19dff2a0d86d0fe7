import Switchboard.Json.Read

/-!
# Passing over JSON values

A value that is not wanted is passed over.  Only its form is checked: it may be nested without limit,
its numbers may be of any size, and its strings may hold half pairs.

* `skipValue`: the text behind a value.
-/

namespace Switchboard.Json

/-- The rest of a string up to the closing quote, passed over. -/
def skipStringFrom : StringState → Text → Except ReadError Text
  | _, [] => .error .endOfText
  | .plain, c :: rest =>
    if c = '"' then .ok rest
    else if c = '\\' then skipStringFrom .escape rest
    else if c.toNat < 0x20 then .error .syntaxError
    else skipStringFrom .plain rest
  | .code left _ _, c :: rest =>
    match hexValue? c with
    | none => .error .syntaxError
    | some _ => skipStringFrom (if left ≤ 1 then .plain else .code (left - 1) 0 none) rest
  | _, c :: rest =>
    if c = 'u' then
      if Text.size8 rest < 4 then .error .endOfText else skipStringFrom (.code 4 0 none) rest
    else match simpleEscape? c with
      | some _ => skipStringFrom .plain rest
      | none => .error .syntaxError

/-- Passes over digits, of which there must be one. -/
def skipDigits : Text → Except ReadError Text
  | [] => .error .syntaxError
  | c :: cs => if c.isDigit then .ok (cs.dropWhile Char.isDigit) else .error .syntaxError

/-- Passes over an exponent, if there is one. -/
def skipExponent : Text → Except ReadError Text
  | 'e' :: s | 'E' :: s =>
    match s with
    | '+' :: r | '-' :: r => skipDigits r
    | r => skipDigits r
  | s => .ok s

/-- Passes over a number behind its sign. -/
def skipMagnitude (s : Text) : Except ReadError Text := do
  let rest ← match s with
    | '0' :: c :: cs => if c.isDigit then .error .syntaxError else .ok (c :: cs)
    | s => skipDigits s
  match rest with
  | '.' :: r => skipDigits r >>= skipExponent
  | r => skipExponent r

/-- Passes over a value that is no container. -/
def skipScalar : Text → Except ReadError Text
  | [] => .error .endOfText
  | 'n' :: rest => readWord "ull".toList rest
  | 't' :: rest => readWord "rue".toList rest
  | 'f' :: rest => readWord "alse".toList rest
  | '"' :: rest => skipStringFrom .plain rest
  | '-' :: rest => skipMagnitude rest
  | c :: rest => if c.isDigit then skipMagnitude (c :: rest) else .error .syntaxError

/-- A container that is being passed over. -/
inductive Frame where
  | array
  | object
  deriving DecidableEq

/-- The bracket that closes a container. -/
def Frame.closing : Frame → Char
  | array => ']'
  | object => '\x7d'

/-- What is to come: a value, a key, or what may follow an opening bracket or a value. -/
inductive Next where
  | value
  | key
  | firstOrClose
  | commaOrClose

/-- What stands in a container. -/
def Frame.content : Frame → Next
  | array => .value
  | object => .key

/-- Passes over what is to come in the given containers, innermost first. -/
def skipFrom : Nat → Next → List Frame → Text → Except ReadError Text
  | 0, _, _, _ => .error .syntaxError
  | _ + 1, .commaOrClose, [], s => .ok s
  | _ + 1, .firstOrClose, [], s => .ok s
  | fuel + 1, .value, frames, s =>
    match skipSpace s with
    | '[' :: rest => skipFrom fuel .firstOrClose (.array :: frames) rest
    | '\x7b' :: rest => skipFrom fuel .firstOrClose (.object :: frames) rest
    | s => skipScalar s >>= skipFrom fuel .commaOrClose frames
  | fuel + 1, .key, frames, s =>
    match skipSpace s with
    | [] => .error .endOfText
    | '"' :: rest => do
      let rest ← skipStringFrom .plain rest
      match skipSpace rest with
      | [] => .error .endOfText
      | ':' :: rest => skipFrom fuel .value frames rest
      | _ => .error .syntaxError
    | _ => .error .syntaxError
  | fuel + 1, .firstOrClose, frame :: frames, s =>
    match skipSpace s with
    | [] => .error .endOfText
    | c :: rest =>
      if c = frame.closing then skipFrom fuel .commaOrClose frames rest
      else skipFrom fuel frame.content (frame :: frames) (c :: rest)
  | fuel + 1, .commaOrClose, frame :: frames, s =>
    match skipSpace s with
    | [] => .error .endOfText
    | c :: rest =>
      if c = frame.closing then skipFrom fuel .commaOrClose frames rest
      else if c = ',' then skipFrom fuel frame.content (frame :: frames) rest
      else .error .syntaxError

/-- The text behind a value.  Every character takes at most two steps. -/
def skipValue (s : Text) : Except ReadError Text := skipFrom (2 * s.length + 2) .value [] s

end Switchboard.Json
