import Switchboard.Log.Filter

/-!
# Lines of the log

How an event is laid out on a line: its level, the batch it belongs to, where it comes from, and its
wording and fields.

* `LogEntry.line`: the line of an event.
-/

namespace Switchboard

/-- The name of a level. -/
def Level.name : Level → Text
  | .trace => "TRACE".toList
  | .debug => "DEBUG".toList
  | .info => "INFO".toList
  | .warn => "WARN".toList
  | .error => "ERROR".toList

/-- A character of a wording; what could steer a terminal is written by its number. -/
def safeChar (c : Char) : Text :=
  let n := c.toNat
  if n = 0x1B then "\\x1b".toList
  else if n = 0x07 then "\\x07".toList
  else if n = 0x08 then "\\x08".toList
  else if n = 0x0C then "\\x0c".toList
  else if n = 0x7F then "\\x7f".toList
  else if 0x80 ≤ n ∧ n ≤ 0x9F then "\\u\x7b".toList ++ Text.hexDigits n ++ ['\x7d']
  else [c]

/-- A wording without characters that could steer a terminal. -/
def safe (s : Text) : Text := s.flatMap safeChar

/-- The value of a field on a line. -/
def FieldValue.shownText : FieldValue → Text
  | .flag b => if b then "true".toList else "false".toList
  | .count n => Nat.toDigits 10 n
  | .quoted s => s.quoted
  | .shown s => s

/-- A field on a line; a field called message is shown by its value alone. -/
def fieldText (f : String × FieldValue) : Text :=
  if f.1 = "message" then safe f.2.shownText else f.1.toList ++ '=' :: f.2.shownText

/-- The batch on a line. -/
def Batch.text (b : Batch) : Text :=
  LogFilter.batchName ++ '\x7b' :: Text.joinWith [' '] (b.fields.map fieldText) ++ ['\x7d']

/-- The line of an event, with its batch if the filter shows that. -/
def LogEntry.line (f : LogFilter) (e : LogEntry) : Text :=
  let batch := match e.batch with
    | some b => if f.showsBatch b then b.text ++ ": ".toList else []
    | none => []
  e.event.level.name ++ ' ' :: batch ++ e.event.target ++ ": ".toList ++
    Text.joinWith [' '] (safe e.event.wording :: e.event.fields.map fieldText)

end Switchboard
