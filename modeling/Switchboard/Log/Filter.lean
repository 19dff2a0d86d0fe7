import Switchboard.Log.Directive

/-!
# Filters for the log

A filter is a list of directives, some about events by themselves and some about batches.

* `LogFilter.parse`, `LogFilter.parseLenient`: all or nothing, and what can be made out.
* `LogFilter.shows`, `LogFilter.showsBatch`: whether an event or a batch is shown.
-/

namespace Switchboard

/-- Where in the program an event comes from. -/
def Event.target : Event → Text
  | .passed _ | .vetoed _ | .failed _ _ => "chatpipe_std::logging".toList
  | .replaced _ => "chatpipe_std::commands::registry".toList
  | .consuming _ | .unknownCommand _ | .homeRoomOnly _ _ | .running _ _ =>
    "chatpipe_std::commands::parser".toList
  | .halted _ => "chatpipe_std::commands::piped".toList
  | .connecting _ _ _ | .dropped _ | .dataKept _ | .sending _ => "chatpipe::bot".toList
  | .ready _ => "chatpipe".toList
  | .attached _ _ | .inputClosed _ => "chatpipe::console".toList

/-- A filter: directives about events by themselves, the most particular first, and directives about
batches. -/
structure LogFilter where
  statics : List Directive
  dynamics : List Directive
  /-- The most that any directive has asked for, also one that another has replaced. -/
  most : Nat

namespace LogFilter

/-! ## Reading -/

/-- Puts a directive in its place; a later one replaces an earlier one about the same. -/
def place (d : Directive) (ds : List Directive) : List Directive :=
  let others := ds.filter fun e => !d.sameSubject e
  others.takeWhile (fun e => e.precedes d) ++ d :: others.dropWhile (fun e => e.precedes d)

/-- The filter of some directives.  One about batches that can be applied to events by themselves is
so applied, too. -/
def ofDirectives (ds : List Directive) : LogFilter :=
  let dynamics := ds.filter Directive.isDynamic
  let alone := ds.filter (fun d => !d.isDynamic) ++ dynamics.filter Directive.isStatic
  { statics := alone.foldl (fun statics d => place d statics) []
    dynamics := dynamics.foldl (fun dynamics d => place d dynamics) []
    most := (ds.map (·.verbosity)).foldl max 0 }

/-- The directives that commas are between. -/
def pieces (s : Text) : List Text := (Text.splitOn ',' s).filter (· ≠ [])

/-- The filter a text stands for, if all of its directives are understood. -/
def parse (s : Text) : Except DirectiveError LogFilter :=
  ofDirectives <$> (pieces s).mapM Directive.parse

/-- What is made out of a list of directives. -/
structure Findings where
  directives : List Directive := []
  /-- A line on each directive that is not understood. -/
  complaints : List Text := []
  /-- Whether a directive stops the program. -/
  isTorn : Bool := false

/-- What is made out of directives in order. -/
def findings : List Text → Findings
  | [] => {}
  | s :: rest =>
    match Directive.parse s with
    | .ok d =>
      let f := findings rest
      { f with directives := d :: f.directives }
    | .error .torn => { isTorn := true }
    | .error e =>
      let f := findings rest
      { f with complaints :=
          ("ignoring \x60".toList ++ s ++ "\x60: ".toList ++ e.message) :: f.complaints }

/-- The filter of those directives that are understood; if there are none, errors are shown. -/
def Findings.filter (f : Findings) : LogFilter :=
  ofDirectives (if f.directives.isEmpty then [{ verbosity := Level.error.verbosity }]
    else f.directives)

/-- What can be made out of a text. -/
def parseLenient (s : Text) : Findings := findings (pieces s)

/-! ## Batches -/

/-- The target of batches. -/
def batchTarget : Text := "chatpipe::bot".toList

/-- The kind of batches. -/
def batchName : Text := "batch".toList

/-- How much a batch itself matters. -/
def batchLevel : Level := .info

/-- The directives that are about a batch. -/
def dynamicsFor (f : LogFilter) (b : Batch) : List Directive :=
  f.dynamics.filter fun d =>
    d.concerns batchTarget (b.fields.map (·.1.toList)) && d.span.all (· == batchName)

/-- Whether a field of a batch has the value that a directive asks for. -/
def isMet (b : Batch) (d : Directive) : Bool :=
  d.requirement.all fun r => r.value.all fun v =>
    (b.fields.find? (·.1.toList = r.name)).any fun f => v.isMetBy f.2

/-- How much the filter lets through at most; batches with values asked for are all let through. -/
def bound (f : LogFilter) : Nat :=
  if f.dynamics.any Directive.asksForValue then greatestVerbosity else f.most

/-- Whether a batch is shown: a directive is about it, or those about targets let it through. -/
def showsBatch (f : LogFilter) (b : Batch) : Bool :=
  batchLevel.verbosity ≤ f.bound &&
    (!(f.dynamicsFor b).isEmpty ||
      (f.statics.find? (·.hasTarget batchTarget)).any (batchLevel.verbosity ≤ ·.verbosity))

/-- How much is shown within a batch by the directives about it. -/
def verbosityWithin (f : LogFilter) (b : Batch) : Nat :=
  if f.showsBatch b then (((f.dynamicsFor b).filter (isMet b)).map (·.verbosity)).foldl max 0 else 0

/-! ## Events -/

/-- Whether an event by itself is shown: the most particular directive about it decides. -/
def showsAlone (f : LogFilter) (target : Text) (fields : List Text) (level : Level) : Bool :=
  (f.statics.find? (·.concerns target fields)).any (level.verbosity ≤ ·.verbosity)

/-- Whether an event is shown. -/
def shows (f : LogFilter) (e : LogEntry) : Bool :=
  let fields := "message".toList :: e.event.fields.map (·.1.toList)
  f.showsAlone e.event.target fields e.event.level ||
    e.batch.any fun b => e.event.level.verbosity ≤ f.verbosityWithin b

end LogFilter

end Switchboard
