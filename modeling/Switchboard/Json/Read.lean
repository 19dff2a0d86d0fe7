import Switchboard.Json.Scan

/-!
# Reading JSON

* `readItems`, `readMembers`: what stands in brackets and braces, for any reader of what they hold.
* `readValue`: a value nested at most so deep.
* `parse`: the value a whole text stands for.
-/

namespace Switchboard.Json

/-! ## Brackets and braces -/

/-- The items behind the first one of an array. -/
def moreItems {α : Type} (item : Reader α) : Nat → Reader (List α)
  | 0, _ => .error .syntaxError
  | fuel + 1, s =>
    match skipSpace s with
    | [] => .error .endOfText
    | ']' :: rest => .ok ([], rest)
    | ',' :: rest => do
      let (v, rest) ← item rest
      let (vs, rest) ← moreItems item fuel rest
      return (v :: vs, rest)
    | _ => .error .syntaxError

/-- The items of an array, behind its opening bracket. -/
def readItems {α : Type} (item : Reader α) : Reader (List α) := fun s =>
  match skipSpace s with
  | [] => .error .endOfText
  | ']' :: rest => .ok ([], rest)
  | s => do
    let (v, rest) ← item s
    let (vs, rest) ← moreItems item (rest.length + 1) rest
    return (v :: vs, rest)

/-- What to do with a member: told its key, a shape refuses it or reads its value, and the state of
the object changes. -/
abbrev MemberReader (σ : Type) := σ → Text → Except ReadError (Reader σ)

/-- A member from the opening quote of its key. -/
def readMember {σ : Type} (member : MemberReader σ) (state : σ) : Reader σ
  | '"' :: s => do
    let (key, s) ← stringBody s
    let value ← member state key
    match skipSpace s with
    | [] => .error .endOfText
    | ':' :: s => value s
    | _ => .error .syntaxError
  | [] => .error .endOfText
  | _ => .error .syntaxError

/-- The members behind the first one of an object. -/
def moreMembers {σ : Type} (member : MemberReader σ) : Nat → σ → Reader σ
  | 0, _, _ => .error .syntaxError
  | fuel + 1, state, s =>
    match skipSpace s with
    | [] => .error .endOfText
    | '\x7d' :: rest => .ok (state, rest)
    | ',' :: rest => do
      let (state, rest) ← readMember member state (skipSpace rest)
      moreMembers member fuel state rest
    | _ => .error .syntaxError

/-- The members of an object, behind its opening brace. -/
def readMembers {σ : Type} (member : MemberReader σ) (state : σ) : Reader σ := fun s =>
  match skipSpace s with
  | [] => .error .endOfText
  | '\x7d' :: rest => .ok (state, rest)
  | s => do
    let (state, rest) ← readMember member state s
    moreMembers member (rest.length + 1) state rest

/-! ## Values -/

/-- A value, with readers for the containers it may be. -/
def readHead (array object : Reader Json) : Reader Json := fun s =>
  match skipSpace s with
  | [] => .error .endOfText
  | 'n' :: rest => (fun r => (.null, r)) <$> readWord "ull".toList rest
  | 't' :: rest => (fun r => (.bool true, r)) <$> readWord "rue".toList rest
  | 'f' :: rest => (fun r => (.bool false, r)) <$> readWord "alse".toList rest
  | '"' :: rest => (fun (s, r) => (.string s, r)) <$> stringBody rest
  | '[' :: rest => array rest
  | '\x7b' :: rest => object rest
  | c :: rest =>
    if c = '-' ∨ c.isDigit then (fun (n, r) => (.number n, r)) <$> readNumber (c :: rest)
    else .error .syntaxError

/-- Keeps the members in the order of the text, the last one first. -/
def collectMember (value : Reader Json) : MemberReader (List (Text × Json)) := fun ms key =>
  .ok fun s => (fun (v, r) => ((key, v) :: ms, r)) <$> value s

/-- The members of an object in the order of the text, behind its opening brace. -/
def readAllMembers (value : Reader Json) : Reader (List (Text × Json)) := fun s =>
  (fun (ms, r) => (ms.reverse, r)) <$> readMembers (collectMember value) [] s

/-- A value with at most `depth` containers inside one another. -/
def readValue : Nat → Reader Json
  | 0 => readHead (fun _ => .error .syntaxError) (fun _ => .error .syntaxError)
  | depth + 1 =>
    readHead
      (fun s => (fun (vs, r) => (.array vs, r)) <$> readItems (readValue depth) s)
      (fun s => (fun (ms, r) => (.ofMembers ms, r)) <$> readAllMembers (readValue depth) s)

/-- The greatest number of containers inside one another. -/
def depthLimit : Nat := 127

/-- A whole text: nothing but blanks may follow what is read. -/
def readAll {α : Type} (reader : Reader α) (s : Text) : Except ReadError α := do
  let (a, rest) ← reader s
  if skipSpace rest = [] then return a else throw .syntaxError

/-- The value a text stands for. -/
def parse (s : Text) : Except ReadError Json := readAll (readValue depthLimit) s

/-! ## Values of one shape -/

/-- The error of a value that is not of the expected shape.  A value without end or of bad syntax is
reported as such, but a container is not looked into. -/
def mismatch {α : Type} (expected : Text) : Reader α := fun s =>
  match readHead (fun _ => .error (.shape (.wrongType .sequence expected)))
      (fun _ => .error (.shape (.wrongType .map expected))) s with
  | .error e => .error e
  | .ok (.null, _) => .error (.shape (.wrongType .null expected))
  | .ok (.bool b, _) => .error (.shape (.wrongType (.bool b) expected))
  | .ok (.number n, _) => .error (.shape (.wrongType (.number n) expected))
  | .ok (.string t, _) => .error (.shape (.wrongType (.string t) expected))
  | .ok (.array _, _) => .error (.shape (.wrongType .sequence expected))
  | .ok (.object _, _) => .error (.shape (.wrongType .map expected))

/-- A string. -/
def readString : Reader Text := fun s =>
  match skipSpace s with
  | '"' :: rest => stringBody rest
  | s => mismatch "a string".toList s

/-- A boolean. -/
def readBool : Reader Bool := fun s =>
  match skipSpace s with
  | 't' :: rest => (fun r => (true, r)) <$> readWord "rue".toList rest
  | 'f' :: rest => (fun r => (false, r)) <$> readWord "alse".toList rest
  | s => mismatch "a boolean".toList s

/-- A list of strings. -/
def readStrings : Reader (List Text) := fun s =>
  match skipSpace s with
  | '[' :: rest => readItems readString rest
  | s => mismatch "a sequence".toList s

/-- A value or null. -/
def readOptional {α : Type} (reader : Reader α) : Reader (Option α) := fun s =>
  match skipSpace s with
  | 'n' :: rest => (fun r => (none, r)) <$> readWord "ull".toList rest
  | s => (fun (a, r) => (some a, r)) <$> reader s

end Switchboard.Json
