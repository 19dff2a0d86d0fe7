import Switchboard.Console.Program
import Switchboard.Proofs.Bot.Still
import Switchboard.Proofs.Bot.Visible
import Switchboard.Proofs.Command.Program

/-!
# Runs on the console remember nothing

The commands of the console only look at the world.  So each line is answered as if it were the
first one, in the world that was set up before it, and a run sends what its lines send.

* `Console.fresh`: the state of a bot that has just been set up.
* `Console.sentOn`: what such a bot sends on lines.
* `Console.hearAll_run`: what lines leave behind in any state.
* `Console.memoryless_hearAll`: a run sends what its lines send on their own.
-/

namespace Switchboard

variable {H M ε : Type}

theorem registerAll_run (es : List (Entry H)) (w : World H M) :
    ∃ log, (World.registerAll es : Action (World H M) ε Unit).run w =
      ⟨.ok (), { w with registry := es.foldl (fun r e => (r.register e).2) w.registry }, log⟩ := by
  induction es generalizing w with
  | nil => exact ⟨[], rfl⟩
  | cons e rest ih =>
    obtain ⟨log, hrest⟩ := ih { w with registry := (w.registry.register e).2 }
    have hrun := Action.run_bind_of_ok (f := fun _ => World.registerAll rest)
      (World.register_run (ε := ε) e w)
    rw [hrest] at hrun
    exact ⟨_, hrun⟩

namespace Bot

/-! ## Rooms that are not attended to -/

variable {w : World H M} {record : Record}

/-- The room check holds a record of another room back, before any other filter. -/
theorem filter_run_of_not_accepts (meaning : Meaning H M) (name : Text)
    (h : w.config.accepts record.channel = false) :
    ∃ log, ((build meaning { name }).filter record).run w = ⟨.ok none, w, log⟩ := by
  have hcheck : (Stage.roomCheck.logged "room_check".toList record).run w =
      ⟨.ok none, w, [⟨.vetoed "room_check".toList, none⟩]⟩ := by
    rw [Stage.logged_run, Stage.roomCheck_run, h]
    rfl
  have hfilters : (build meaning { name }).filters =
      Stage.roomCheck.logged "room_check".toList ::
        [Stage.commandFilter.logged "is_command".toList] := rfl
  rw [filter_eq_inTurn, hfilters, Stage.inTurn, Stage.onward_run_of_stops, hcheck]
  · exact ⟨_, rfl⟩
  · rw [hcheck]
    exact Stage.stops_none

/-- Only the reduction of markup transforms a record. -/
theorem transform_build (meaning : Meaning H M) (name : Text) (record : Record) :
    (build meaning { name }).transform record =
      Stage.reduceMarkup.logged Markup.reduceName record := by
  have htransformers : (build meaning { name }).transformers =
      [Stage.reduceMarkup.logged Markup.reduceName] := rfl
  rw [transform_eq_inTurn, htransformers, Stage.inTurn]
  exact Stage.onward_some _

/-- For a record of a room that is not attended to nothing is sent. -/
theorem deliveries_of_not_accepts (meaning : Meaning H M) (name : Text)
    (h : w.config.accepts record.channel = false) :
    (build meaning { name }).deliveries w record = [] := by
  rw [deliveries, answer_run, accept_run, transform_build, Stage.logged_run]
  cases hreduce : Markup.reduce record.message with
  | error e => rw [Stage.reduceMarkup_run_of_error hreduce]
  | ok text =>
    have hkept : w.config.accepts (record.withMessage text).channel = false := h
    obtain ⟨log, hfilter⟩ := filter_run_of_not_accepts meaning name hkept
    simp only [Stage.reduceMarkup_run_of_ok hreduce, hfilter]

end Bot

namespace Console

/-! ## The bot that is set up -/

/-- The state of the bot when the first line is read. -/
def fresh (s : Settings) : State := (connect.run (initial s)).world

/-- **Setting up the bot succeeds.**  The bot has the chosen configuration and command settings, and
has sent nothing. -/
theorem connect_run (s : Settings) :
    (connect.run (initial s)).outcome = .ok () ∧ (fresh s).world.config = s.bot ∧
      (fresh s).world.settings = s.commands ∧ (fresh s).transport.sent = [] := by
  obtain ⟨log, hregister⟩ := registerAll_run (ε := BotError) (ConsoleCommand.entries id)
    (initial s).world
  have hworld := Bot.onWorld_run (s := initial s) hregister
  have hconnect : ∃ (registry : Registry ConsoleCommand) (transport : Transport)
      (log : List LogEntry), transport.sent = [] ∧ connect.run (initial s) =
        ⟨.ok (), { world := { (initial s).world with registry }, transport }, log⟩ := by
    rw [connect, Action.run_bind_of_ok hworld]
    exact ⟨_, _, _, rfl, rfl⟩
  obtain ⟨registry, transport, log, hsent, hrun⟩ := hconnect
  rw [fresh, hrun]
  exact ⟨rfl, rfl, rfl, hsent⟩

theorem still_bot : bot.Still :=
  Bot.still_build (fun _ _ => Action.Still.get.bind fun _ => .pure _) _

/-! ## Lines -/

variable {ε : Type}

/-- The line is text, so that the input can be read on behind it. -/
def readable (line : List UInt8) : Bool :=
  match Utf8.decode (withoutEnd line) with
  | .ok _ => true
  | .error _ => false

/-- What is sent for a line that is heard in a world. -/
def lineDeliveries (w : World ConsoleCommand Unit) (line : List UInt8) : List Delivery :=
  match Utf8.decode (withoutEnd line) with
  | .ok text => bot.deliveries w (recordOf w.config.room text)
  | .error _ => []

theorem length_lineDeliveries_le_one (w : World ConsoleCommand Unit) (line : List UInt8) :
    (lineDeliveries w line).length ≤ 1 := by
  rw [lineDeliveries]
  split
  · exact bot.length_deliveries_le_one w _
  · exact Nat.zero_le 1

theorem lineDeliveries_of_not_readable {line : List UInt8} (h : readable line = false)
    (w : World ConsoleCommand Unit) : lineDeliveries w line = [] := by
  rw [readable] at h
  rw [lineDeliveries]
  split at h
  · cases h
  · rfl

/-- Of a line nothing stays but what is sent for it. -/
theorem hear_run (line : List UInt8) (s : State) :
    ∃ log, (hear line : Action State ε Bool).run s =
      ⟨.ok (readable line), s.withSent (lineDeliveries s.world line), log⟩ := by
  rw [hear, readable, lineDeliveries]
  cases hdecode : Utf8.decode (withoutEnd line) with
  | error e =>
    simp only [BotState.withSent_nil]
    exact ⟨_, rfl⟩
  | ok text =>
    obtain ⟨log, hprocess⟩ := still_bot.process_run (ε := ε) [recordOf s.world.config.room text] s
    have hrun := Action.run_bind_of_ok (f := fun _ => (pure true : Action State ε Bool)) hprocess
    rw [List.flatMap_singleton] at hrun
    exact ⟨_, (Action.run_bind_of_ok (Action.run_get s)).trans hrun⟩

/-- **Lines leave behind what they send**, up to the first one that is not text, each in the world as
it was before them all. -/
theorem hearAll_run (lines : List (List UInt8)) (s : State) :
    ∃ log, (hearAll lines : Action State ε Unit).run s =
      ⟨.ok (), s.withSent ((lines.takeWhile readable).flatMap (lineDeliveries s.world)), log⟩ := by
  induction lines generalizing s with
  | nil => exact ⟨[], by rw [List.takeWhile_nil, List.flatMap_nil, BotState.withSent_nil]; rfl⟩
  | cons line rest ih =>
    obtain ⟨log, hline⟩ := hear_run (ε := ε) line s
    have hrun := Action.run_bind_of_ok
      (f := fun go => if go = true then (hearAll rest : Action State ε Unit) else pure ()) hline
    cases hreadable : readable line with
    | false =>
      rw [hreadable, if_neg Bool.false_ne_true, lineDeliveries_of_not_readable hreadable] at hrun
      rw [List.takeWhile_cons_of_neg (by rw [hreadable]; exact Bool.false_ne_true)]
      exact ⟨_, hrun⟩
    | true =>
      obtain ⟨log', hrest⟩ := ih (s.withSent (lineDeliveries s.world line))
      rw [hreadable, if_pos rfl, hrest] at hrun
      rw [List.takeWhile_cons_of_pos hreadable, List.flatMap_cons, Bot.withSent_append]
      exact ⟨_, hrun⟩

/-! ## Runs -/

/-- What a bot that has just been set up sends on lines. -/
def sentOn (s : Settings) (lines : List (List UInt8)) : List Delivery :=
  ((hearAll lines : Action State Empty Unit).run (fresh s)).world.transport.sent

theorem sentOn_eq (s : Settings) (lines : List (List UInt8)) :
    sentOn s lines = (lines.takeWhile readable).flatMap (lineDeliveries (fresh s).world) := by
  obtain ⟨log, hrun⟩ := hearAll_run (ε := Empty) lines (fresh s)
  rw [sentOn, hrun, BotState.withSent, (connect_run s).2.2.2, List.nil_append]

theorem sentOn_singleton (s : Settings) (line : List UInt8) :
    sentOn s [line] = lineDeliveries (fresh s).world line := by
  rw [sentOn_eq]
  cases hreadable : readable line with
  | false =>
    rw [lineDeliveries_of_not_readable hreadable, List.takeWhile_cons, hreadable]
    rfl
  | true =>
    rw [List.takeWhile_cons, hreadable]
    exact List.flatMap_singleton _ _

/-- A line that names a room comes from there. -/
theorem recordOf_room (home : Text) {room : Text} (h : ' ' ∉ room) (text : Text) :
    recordOf home ('#' :: room ++ ' ' :: text) = { channel := room, message := text } := by
  have hroom : (room ++ ' ' :: text).takeWhile (· != ' ') = room := by
    rw [List.takeWhile_append_of_pos]
    · exact List.append_nil room
    · intro c hc
      rw [bne_iff_ne]
      rintro rfl
      exact h hc
  rw [List.cons_append, recordOf, hroom, List.drop_left]

/-- While only the home room is attended to, nothing is sent for a line of another room. -/
theorem lineDeliveries_of_other_room {w : World ConsoleCommand Unit} {line : List UInt8}
    {room text : Text} (hglobal : w.config.global = false)
    (hline : Utf8.decode (withoutEnd line) = .ok ('#' :: room ++ ' ' :: text)) (hspace : ' ' ∉ room)
    (hroom : room ≠ w.config.room) : lineDeliveries w line = [] := by
  have haccepts : w.config.accepts room = false := by
    rw [Config.accepts, hglobal, Bool.false_or, beq_eq_false_iff_ne]
    exact hroom.symm
  rw [lineDeliveries, hline]
  simp only [recordOf_room _ hspace]
  exact Bot.deliveries_of_not_accepts _ _ haccepts

/-- **A run on the console remembers nothing.**  With all settings, setting up the bot and hearing
lines succeed.  What is sent on lines is what a bot that has just been set up sends on each of them
alone, one after the other and up to the first line that is not text: at most one message for each.
Configuration, command settings and registry are the same after the lines as before.  And unless all
rooms are attended to, nothing is sent on a line that names a room other than home. -/
theorem memoryless_hearAll (s : Settings) (lines : List (List UInt8)) :
    let run := (hearAll lines : Action State Empty Unit).run (fresh s)
    (connect.run (initial s)).outcome = .ok () ∧ run.outcome = .ok () ∧
    (fresh s).world.config = s.bot ∧ (fresh s).world.settings = s.commands ∧
    run.world.world = (fresh s).world ∧
    sentOn s lines = (lines.takeWhile readable).flatMap (fun line => sentOn s [line]) ∧
    (∀ line, (sentOn s [line]).length ≤ 1) ∧
    (s.bot.global = false → ∀ line room text,
      Utf8.decode (withoutEnd line) = .ok ('#' :: room ++ ' ' :: text) → ' ' ∉ room →
      room ≠ s.bot.room → sentOn s [line] = []) := by
  intro run
  obtain ⟨hconnect, hconfig, hsettings, -⟩ := connect_run s
  obtain ⟨log, hrun⟩ : ∃ log, run = ⟨.ok (), (fresh s).withSent
      ((lines.takeWhile readable).flatMap (lineDeliveries (fresh s).world)), log⟩ :=
    hearAll_run lines (fresh s)
  have hsent : (fun line => sentOn s [line]) = lineDeliveries (fresh s).world :=
    funext (sentOn_singleton s)
  refine ⟨hconnect, by rw [hrun], hconfig, hsettings, by rw [hrun]; rfl, ?_, ?_, ?_⟩
  · rw [hsent, sentOn_eq]
  · intro line
    rw [sentOn_singleton]
    exact length_lineDeliveries_le_one _ line
  · intro hglobal line room text hline hspace hroom
    rw [sentOn_singleton]
    rw [← hconfig] at hglobal hroom
    exact lineDeliveries_of_other_room hglobal hline hspace hroom

/-- A pipe, a line of another room, one that is sent to another room, and one that is not text and
ends the input. -/
theorem memoryless_hearAll_rooms :
    (sentOn {} [Utf8.encode "!echo ab | !rev\n".toList, Utf8.encode "#far !echo b\n".toList,
      Utf8.encode "!tell far c\n".toList, [0xFF, newline],
      Utf8.encode "!echo d\n".toList]).map
        (fun d => (d.message.channel, d.message.message, d.home)) =
      [("global".toList, "ba".toList, "global".toList),
        ("far".toList, "c".toList, "global".toList)] ∧
    sentOn {} [Utf8.encode "#far !echo b\n".toList] = [] := by
  obtain ⟨-, -, -, -, -, hsent, -, hroom⟩ := memoryless_hearAll {}
    [Utf8.encode "!echo ab | !rev\n".toList, Utf8.encode "#far !echo b\n".toList,
      Utf8.encode "!tell far c\n".toList, [0xFF, newline], Utf8.encode "!echo d\n".toList]
  constructor
  · rw [hsent]
    decide +kernel
  · have hread : (Utf8.decode (withoutEnd (Utf8.encode "#far !echo b\n".toList))).toOption =
        some ('#' :: "far".toList ++ ' ' :: "!echo b".toList) := by decide +kernel
    cases hdecode : Utf8.decode (withoutEnd (Utf8.encode "#far !echo b\n".toList)) with
    | error e =>
      rw [hdecode] at hread
      cases hread
    | ok text =>
      rw [hdecode] at hread
      obtain rfl : text = '#' :: "far".toList ++ ' ' :: "!echo b".toList := Option.some.inj hread
      exact hroom rfl (Utf8.encode "#far !echo b\n".toList) "far".toList "!echo b".toList hdecode
        (by decide) (by decide)

end Console

end Switchboard
