import Switchboard.Console.Program

/-!
# The console as a command

Reads the arguments, the settings file, the directives for the log and the lines of the input, and
writes what `Switchboard.Console` says to write, as soon as it is known.
-/

namespace Switchboard.Console

/-- What a path leads to on disk. -/
def lookOnDisk (path : Text) : IO (Option FolderItem) := do
  try
    let bytes ← IO.FS.readBinFile (String.ofList path)
    return some (.file bytes.toList)
  catch
    | .noFileOrDirectory .. => return none
    | .inappropriateType _ 21 _ => return some .directory
    | .inappropriateType .. => return none
    | e => throw e

/-- The bytes of the next line with its end; none when the input is over. -/
partial def nextLine (input : IO.FS.Stream) (before : List UInt8) : IO (List UInt8) := do
  match (← input.read 1).toList with
  | [] => return before.reverse
  | b :: _ => if b = newline then return (b :: before).reverse else nextLine input (b :: before)

/-- Writes a text at once. -/
def write (output : IO.FS.Stream) (s : Text) : IO Unit := do
  output.putStr (String.ofList s)
  output.flush

/-- Hears line after line. -/
partial def converse (input output : IO.FS.Stream) (filter : LogFilter) (s : State) : IO Unit := do
  match ← nextLine input [] with
  | [] => return
  | line =>
    let run : Run State Empty Bool := (hear line).run s
    write output (writtenAll filter run.log)
    match run.outcome with
    | .ok true => converse input output filter run.world
    | .ok false => return
    | .error e => nomatch e

end Switchboard.Console

open Switchboard Console in
/-- The program. -/
def main (args : List String) : IO UInt32 := do
  let input ← IO.getStdin
  let output ← IO.getStdout
  let errors ← IO.getStderr
  let args := args.map String.toList
  let directives := (← IO.getEnv "RUST_LOG").map String.toList
  let path := settingsPath args
  let item ← lookOnDisk path
  match prepare args (fun _ => item) directives with
  | .error e =>
    write output e.out
    unless e.complaint.isEmpty do write errors (e.complaint ++ ['\n'])
    return UInt32.ofNat e.code
  | .ok r =>
    for line in r.complaints do write errors (line ++ ['\n'])
    write output (writtenAll r.filter r.start.log)
    converse input output r.filter r.start.world
    return 0
