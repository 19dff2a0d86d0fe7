import Switchboard.Text.Basic

/-!
# TOML values

* `Toml.Value`: what a key of a document stands for.
* `Toml.Origin`: how a table came to be, which decides whether it may be added to.
-/

namespace Switchboard.Toml

/-- How a table came to be. -/
inductive Origin where
  /-- By a header of its own, or as the document itself. -/
  | header
  /-- By a longer header. -/
  | implied
  /-- By a dotted key. -/
  | dotted
  /-- Between braces; nothing can be added to it. -/
  | inline
  deriving DecidableEq, Repr

/-- A value.  Numbers and times are kept as they are written. -/
inductive Value where
  | string (s : Text)
  | boolean (b : Bool)
  | number (written : Text)
  | time (written : Text)
  | array (items : List Value)
  | table (origin : Origin) (members : List (Text × Value))
  /-- An array whose tables each have a header. -/
  | tables (elements : List (List (Text × Value)))
  deriving Repr, Inhabited

/-- The members of a table. -/
abbrev Members := List (Text × Value)

/-- The value of a key. -/
def Members.find? (key : Text) (ms : Members) : Option Value := ms.lookup key

/-- The members with a key set to a value. -/
def Members.set (key : Text) (v : Value) : Members → Members
  | [] => [(key, v)]
  | (k, w) :: ms => if k = key then (k, v) :: ms else (k, w) :: Members.set key v ms

end Switchboard.Toml
