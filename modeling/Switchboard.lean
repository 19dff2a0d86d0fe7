import Switchboard.Action
import Switchboard.Bot.Basic
import Switchboard.Command.Basic
import Switchboard.Command.Parse
import Switchboard.Command.Pipe
import Switchboard.Command.Registry
import Switchboard.Config
import Switchboard.Config.Json
import Switchboard.Console.Arguments
import Switchboard.Console.Commands
import Switchboard.Console.Program
import Switchboard.Failure
import Switchboard.Folder
import Switchboard.Json.Basic
import Switchboard.Json.Error
import Switchboard.Json.Read
import Switchboard.Json.Scan
import Switchboard.Json.Skip
import Switchboard.KeyMap
import Switchboard.Log
import Switchboard.Log.Directive
import Switchboard.Log.Expected
import Switchboard.Log.Filter
import Switchboard.Log.Line
import Switchboard.Main
import Switchboard.Markup.Document
import Switchboard.Markup.Entity
import Switchboard.Markup.Reduce
import Switchboard.Markup.Tag
import Switchboard.Number.Binary64
import Switchboard.Number.Shortest
import Switchboard.Proofs.Command.Fold
import Switchboard.Proofs.Command.Lookup
import Switchboard.Proofs.Command.Pipe
import Switchboard.Proofs.Command.Resolve
import Switchboard.Proofs.Stage.Sequence
import Switchboard.Record
import Switchboard.Record.Read
import Switchboard.Regex.Basic
import Switchboard.Regex.CharClass
import Switchboard.Regex.Read
import Switchboard.Script.Handler
import Switchboard.Script.Memory
import Switchboard.Script.Stage
import Switchboard.Settings
import Switchboard.Stage.Basic
import Switchboard.Stage.Tree
import Switchboard.Stage.Usual
import Switchboard.Text.Alphanumeric
import Switchboard.Text.Basic
import Switchboard.Text.Blank
import Switchboard.Text.Digits
import Switchboard.Text.Pattern
import Switchboard.Text.Printable
import Switchboard.Text.Quoted
import Switchboard.Text.Ranges
import Switchboard.Text.Upper
import Switchboard.Text.Utf8
import Switchboard.Text.Word
import Switchboard.Toml.Read
import Switchboard.Toml.Scan
import Switchboard.Toml.Value
import Switchboard.Transport
import Switchboard.World
import Switchboard.Proofs.Stage.Watch
import Switchboard.Proofs.Bot.Answer
import Switchboard.Proofs.Bot.Record
import Switchboard.Proofs.Bot.Batches
import Switchboard.Proofs.Markup.Escape
import Switchboard.Proofs.Markup.TagKind
import Switchboard.Proofs.Markup.Document
import Switchboard.Proofs.Stage.FailFast
import Switchboard.Proofs.Bot.Host
import Switchboard.Proofs.Bot.Visible
import Switchboard.Proofs.Command.Program
import Switchboard.Proofs.Bot.HomeRoom
import Switchboard.Proofs.Text.Split
import Switchboard.Proofs.Command.Append
import Switchboard.Proofs.Command.Compose
import Switchboard.Proofs.Bot.Still
import Switchboard.Proofs.Console.Memoryless
import Switchboard.Proofs.Json.Scalar
import Switchboard.Proofs.Json.ReadBack
import Switchboard.Proofs.Json.InOrder
import Switchboard.Proofs.Record.RoundTrip
import Switchboard.Proofs.Command.Prefix
import Switchboard.Proofs.Command.Invocation
import Switchboard.Proofs.Markup.Image
import Switchboard.Proofs.Stage.Alike
import Switchboard.Proofs.Command.Threading
import Switchboard.Proofs.Bot.Threading
import Switchboard.Proofs.Text.Replace
import Switchboard.Proofs.Markup.TagFree
import Switchboard.Proofs.Markup.DecodeOnce
import Switchboard.Proofs.Command.FirstPrefix
import Switchboard.Proofs.Command.Spelling
import Switchboard.Proofs.Stage.Logged
import Switchboard.Proofs.Stage.Nested
import Switchboard.Proofs.Stage.Calls
import Switchboard.Proofs.Stage.Conjunction
import Switchboard.Proofs.Json.Members
import Switchboard.Proofs.Record.Wire
import Switchboard.Proofs.Command.Registry
