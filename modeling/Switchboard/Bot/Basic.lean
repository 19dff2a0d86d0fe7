import Switchboard.Command.Pipe
import Switchboard.Stage.Usual

/-!
# Bots

A bot normalizes a record, decides whether it is meant for the consumer, and sends what the consumer
answers.  Only the bot itself uses its transport, which is the one that records
(`Switchboard.Transport`).

* `Bot.build`: a bot from what is chosen for it.
* `Bot.processOne`: one record from arrival to sending.
* `Bot.process`, `Bot.run`, `Bot.start`: batches of records.
-/

namespace Switchboard

/-- The parts of a bot. -/
structure Bot (H M : Type) where
  name : Text
  transformers : List (Stage (World H M) Record Record)
  filters : List (Stage (World H M) Record Record)
  consumer : Record → Action (World H M) Failure CommandResult

/-- What a bot works on: the world of its stages and handlers, and the transport, which they do not
see. -/
structure BotState (H M : Type) where
  world : World H M
  transport : Transport := {}

namespace Bot

variable {H M ε α : Type}

/-- The choices for a bot. -/
structure Options (H M : Type) where
  name : Text := "chatpipe".toList
  /-- Whether the usual stages come first. -/
  usualStages : Bool := true
  transformers : List (Stage (World H M) Record Record) := []
  filters : List (Stage (World H M) Record Record) := []
  /-- The consumer, if it is not the command parser. -/
  consumer : Option (Record → Action (World H M) Failure CommandResult) := none

/-- The bot of some choices: the usual stages come before the chosen ones. -/
def build (meaning : Meaning H M) (o : Options H M) : Bot H M where
  name := o.name
  transformers := (if o.usualStages then Stage.usualTransformers else []) ++ o.transformers
  filters := (if o.usualStages then Stage.usualFilters else []) ++ o.filters
  consumer := o.consumer.getD (consume meaning)

/-! ## Sending -/

/-- An action of stages and handlers as one of the bot. -/
def onWorld (a : Action (World H M) ε α) : Action (BotState H M) ε α :=
  a.zoom (·.world) fun world s => { s with world }

/-- A text addressed to the room of a configuration. -/
def address (text : Text) (c : Config) : Outbound :=
  { message := text, channel := c.room, global := c.global, showBadge := true }

/-- Hands a message to the transport. -/
def dispatch (m : Outbound) : Action (BotState H M) ε Unit := do
  Action.emit (.sending m)
  Action.modify fun s =>
    { s with transport := s.transport.send { message := m, home := s.world.config.room } }

/-- Sends a text to the home room. -/
def send (text : Text) : Action (BotState H M) ε Unit := do
  let s ← Action.get
  dispatch (address text s.world.config)

/-- Sends a text to a channel.  The message is addressed while the channel counts as home, and handed
over when the home room is back. -/
def sendTo (text channel : Text) : Action (BotState H M) ε Unit := do
  let message ← Action.modifyGet fun s =>
    let (message, config) := s.world.config.within channel (address text)
    (message, { s with world := { s.world with config } })
  dispatch message

/-- Acts on an answer: replies go home, redirected texts to their channel, and data stays. -/
def deliver : CommandResult → Action (BotState H M) ε Unit
  | .silent => return ()
  | .reply text => send text
  | .redirect text channel => sendTo text channel
  | .data value => Action.emit (.dataKept value)

/-! ## Records -/

/-- The normalization of records. -/
def transform (bot : Bot H M) : Stage (World H M) Record Record := Stage.chainAll bot.transformers

/-- The decision about normalized records. -/
def filter (bot : Bot H M) : Stage (World H M) Record Record := Stage.composeAll bot.filters

/-- One record from arrival to sending.  A record that a stage holds back is no error. -/
def processOne (bot : Bot H M) (record : Record) : Action (BotState H M) BotError Unit := do
  match ← (onWorld (bot.transform record)).mapError .stage with
  | none => return ()
  | some normalized =>
    match ← (onWorld (bot.filter normalized)).mapError .stage with
    | none => return ()
    | some _ =>
      let answer ← (onWorld (bot.consumer normalized)).mapError .consumer
      deliver answer

/-- One record of a batch: an error is reported, and the record dropped. -/
def processOrDrop (bot : Bot H M) (record : Record) : Action (BotState H M) ε Unit := do
  match ← (bot.processOne record).attempt with
  | .ok () => return ()
  | .error e => Action.emit (.dropped e)

/-- The records of a batch in order. -/
def processAll (bot : Bot H M) : List Record → Action (BotState H M) ε Unit
  | [] => return ()
  | record :: records => do
    bot.processOrDrop record
    bot.processAll records

/-- A batch. -/
def process (bot : Bot H M) (batch : List Record) : Action (BotState H M) ε Unit :=
  (bot.processAll batch).within { bot := bot.name, size := batch.length }

/-- Batches in order. -/
def run (bot : Bot H M) : List (List Record) → Action (BotState H M) ε Unit
  | [] => return ()
  | batch :: batches => do
    bot.process batch
    bot.run batches

/-- Connects the transport to the home room. -/
def init (bot : Bot H M) : Action (BotState H M) BotError Unit := do
  let s ← Action.get
  let config := s.world.config
  Action.emit (.connecting bot.name config.room config.credentials.isNone)
  let outcome ← Action.modifyGet fun s =>
    let (outcome, transport) := s.transport.connect config.room config.credentials
    (outcome, { s with transport })
  Action.mapError .connection (Action.ofExcept outcome)

/-- Connects, and then works through the batches. -/
def start (bot : Bot H M) (batches : List (List Record)) : Action (BotState H M) BotError Unit := do
  bot.init
  bot.run batches

end Bot

end Switchboard
