import Switchboard.Json.Basic
import Switchboard.Text.Quoted

/-!
# Errors of reading JSON

A text fails to be read because it ends too early, because it is no JSON, or because it is JSON of
another shape than the one wanted.

* `ShapeError.message`: the wording of the third kind.
-/

namespace Switchboard.Json

/-- What was found where something else was wanted. -/
inductive Found where
  | null
  | bool (b : Bool)
  | number (n : Number)
  | string (s : Text)
  | sequence
  | map
  deriving DecidableEq, Repr

/-- A value of the wrong shape. -/
inductive ShapeError where
  | missingField (name : Text)
  | duplicateField (name : Text)
  | wrongType (found : Found) (expected : Text)
  deriving DecidableEq, Repr

/-- Why a text could not be read. -/
inductive ReadError where
  | endOfText
  | syntaxError
  | shape (e : ShapeError)
  deriving DecidableEq, Repr

/-- A text in backticks. -/
def ticked (s : Text) : Text := '\x60' :: s ++ ['\x60']

/-- How a found value is named. -/
def Found.describe : Found → Text
  | null => "null".toList
  | bool b => "boolean ".toList ++ ticked (if b then "true".toList else "false".toList)
  | number (.int i) => "integer ".toList ++ ticked (Number.int i).write
  | number (.float negative m) =>
    "floating point ".toList ++ ticked (Number.float negative m).write
  | string s => "string ".toList ++ s.quoted
  | sequence => "sequence".toList
  | map => "map".toList

/-- The wording of a wrong shape. -/
def ShapeError.message : ShapeError → Text
  | missingField name => "missing field ".toList ++ ticked name
  | duplicateField name => "duplicate field ".toList ++ ticked name
  | wrongType found expected =>
    "invalid type: ".toList ++ found.describe ++ ", expected ".toList ++ expected

end Switchboard.Json
