import Switchboard.Toml.Scan

/-!
# Reading TOML

* `readValue`: a value nested at most so deep.
* `Members.atPath`: a change of a table inside a document.
* `parse`: the members of a document.
-/

namespace Switchboard.Toml

/-! ## Tables inside tables -/

/-- A change of the table that a path leads to.  A part that is missing becomes a table of the given
origin; of an array of tables the last one is meant.  A dotted key does not lead into a table that
has a header.  The change is told the origin of its table. -/
def Members.atPath (origin : Origin) (change : Origin → Members → Option Members) :
    Origin → List Text → Members → Option Members
  | here, [], ms => change here ms
  | _, key :: path, ms =>
    match ms.find? key with
    | none => do
      let inner ← Members.atPath origin change origin path []
      return Members.set key (.table origin inner) ms
    | some (.table o inner) =>
      if o = .inline ∨ (origin = .dotted ∧ o = .header) then none
      else do
        let inner ← Members.atPath origin change o path inner
        return Members.set key (.table o inner) ms
    | some (.tables elements) =>
      match elements.reverse with
      | [] => none
      | last :: before => do
        let inner ← Members.atPath origin change .header path last
        return Members.set key (.tables (before.reverse ++ [inner])) ms
    | some _ => none

/-- Adds a new key to a table.  At the end of a dotted key the table has to come from dotted keys. -/
def addKey (dotted : Bool) (key : Text) (v : Value) (here : Origin) (ms : Members) :
    Option Members :=
  if dotted && here != .dotted then none
  else match ms.find? key with
    | some _ => none
    | none => some (ms ++ [(key, v)])

/-- Sets a key of one or more parts in a table. -/
def Members.assign (here : Origin) (key : List Text) (v : Value) (ms : Members) : Option Members :=
  match key.reverse with
  | [] => none
  | last :: path =>
    ms.atPath .dotted (addKey (!path.isEmpty) last v) here path.reverse

/-- Opens a table by its header.  It may exist by a longer header only. -/
def openTable (key : Text) (_ : Origin) (ms : Members) : Option Members :=
  match ms.find? key with
  | none => some (ms ++ [(key, .table .header [])])
  | some (.table .implied inner) => some (Members.set key (.table .header inner) ms)
  | some _ => none

/-- Opens a further table of an array. -/
def openElement (key : Text) (_ : Origin) (ms : Members) : Option Members :=
  match ms.find? key with
  | none => some (ms ++ [(key, .tables [[]])])
  | some (.tables elements) => some (Members.set key (.tables (elements ++ [[]])) ms)
  | some _ => none

/-- Opens the table of a header. -/
def Members.openHeader (element : Bool) (key : List Text) (ms : Members) : Option Members :=
  match key.reverse with
  | [] => none
  | last :: path =>
    ms.atPath .implied (if element then openElement last else openTable last) .header path.reverse

/-- A change of the table whose header was last.  Unlike a key, the header's path is there already. -/
def Members.inTable (change : Members → Option Members) (path : List Text) (ms : Members) :
    Option Members :=
  ms.atPath .implied (fun _ inner => change inner) .header path

/-! ## Values -/

/-- The items behind an opening bracket, with blanks, comments and line ends around them; fuel for
each item. -/
def readItems (value : Reader Value) : Nat → Reader (List Value)
  | 0, _ => none
  | fuel + 1, s =>
    match skipLines s with
    | ']' :: rest => some ([], rest)
    | s => do
      let (v, rest) ← value s
      match skipLines rest with
      | ']' :: rest => some ([v], rest)
      | ',' :: rest =>
        let (vs, rest) ← readItems value fuel rest
        return (v :: vs, rest)
      | _ => none

/-- The members before a closing brace, on one line; fuel for each of them. -/
def readPairs (value : Reader Value) : Nat → Members → Reader Members
  | 0, _, _ => none
  | fuel + 1, ms, s => do
    let (key, s) ← readKey s
    let s ← behind '=' s
    let (v, s) ← value (skipSpace s)
    let ms ← ms.assign .inline key v
    match skipSpace s with
    | '\x7d' :: rest => some (ms, rest)
    | ',' :: rest => readPairs value fuel ms rest
    | _ => none

/-- A table behind its opening brace. -/
def readInline (value : Reader Value) : Reader Members := fun s =>
  match skipSpace s with
  | '\x7d' :: rest => some ([], rest)
  | s => readPairs value (s.length + 1) [] s

/-- A value that is no container. -/
def readScalar : Reader Value := fun s =>
  match s with
  | [] => none
  | 't' :: 'r' :: 'u' :: 'e' :: rest => some (.boolean true, rest)
  | 'f' :: 'a' :: 'l' :: 's' :: 'e' :: rest => some (.boolean false, rest)
  | c :: _ =>
    if c = '"' ∨ c = '\'' then (fun (t, r) => (.string t, r)) <$> readString s
    else
      let written (rest : Text) : Text := s.take (s.length - rest.length)
      match readTime s with
      | some ((), rest) => some (.time (written rest), rest)
      | none => (fun ((), rest) => (.number (written rest), rest)) <$> readNumber s

/-- A value with at most `depth` containers inside one another. -/
def readValue : Nat → Reader Value
  | 0, s =>
    match s with
    | '[' :: _ | '\x7b' :: _ => none
    | s => readScalar s
  | depth + 1, s =>
    match s with
    | '[' :: rest =>
      (fun (vs, r) => (.array vs, r)) <$> readItems (readValue depth) (rest.length + 1) rest
    | '\x7b' :: rest => (fun (ms, r) => (.table .inline ms, r)) <$> readInline (readValue depth) rest
    | s => readScalar s

/-! ## Documents -/

/-- A document read so far: its members, and the path of the last header. -/
structure Document where
  members : Members := []
  path : List Text := []

/-- Reads a header, behind its opening brackets. -/
def readHeader (element : Bool) (d : Document) (s : Text) : Option (Document × Text) := do
  let (key, s) ← readKey s
  let s ← behind ']' s
  let s ← if element then behind ']' s else some s
  let members ← d.members.openHeader element key
  let rest ← lineEnd? s
  return ({ members, path := key }, rest)

/-- Reads a key and its value. -/
def readPair (d : Document) (s : Text) : Option (Document × Text) := do
  let (key, s) ← readKey s
  let s ← behind '=' s
  let (v, s) ← readValue (depthLimit - 1) (skipSpace s)
  let members ← d.members.inTable (·.assign .header key v) d.path
  let rest ← lineEnd? s
  return ({ d with members }, rest)

/-- Reads the lines of a document; fuel for each line. -/
def readLines : Nat → Document → Text → Option Document
  | 0, _, _ => none
  | fuel + 1, d, s =>
    match skipSpace s with
    | [] => some d
    | '#' :: _ => lineEnd? s >>= readLines fuel d
    | '[' :: '[' :: rest => do
      let (d, rest) ← readHeader true d rest
      readLines fuel d rest
    | '[' :: rest => do
      let (d, rest) ← readHeader false d rest
      readLines fuel d rest
    | s =>
      match newline? s with
      | some rest => readLines fuel d rest
      | none => do
        let (d, rest) ← readPair d s
        readLines fuel d rest

/-- The members of a document, which may start with a byte order mark. -/
def parse (s : Text) : Option Members :=
  let s := match s with
    | '\uFEFF' :: rest => rest
    | s => s
  (·.members) <$> readLines (s.length + 1) {} s

end Switchboard.Toml
