import Switchboard.Text.Basic

/-!
# Failures

What a stage, a handler or the command parser fails with.

* `Failure.message`: the wording.
* `Failure.causes`: the wordings of the failures behind it, nearest first.
-/

namespace Switchboard

/-- Why a stage, a handler or the parser failed. -/
inductive Failure where
  /-- Input that the named stage cannot make sense of. -/
  | malformed (stage reason : Text)
  /-- A failure that is known by its text alone. -/
  | plain (text : Text)
  /-- The handler of the named command failed. -/
  | command (name : Text) (cause : Failure)
  deriving DecidableEq, Repr

namespace Failure

/-- The wording of a failure. -/
def message : Failure → Text
  | malformed stage reason => stage ++ ": malformed input: ".toList ++ reason
  | plain text => text
  | command name cause =>
    "command `".toList ++ name ++ "` failed: ".toList ++ cause.message

/-- The wordings of the failures behind this one, nearest first. -/
def causes : Failure → List Text
  | malformed _ _ | plain _ => []
  | command _ cause => cause.message :: cause.causes

end Failure

end Switchboard
