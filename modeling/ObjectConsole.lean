import ObjectConsole.Text.Cut
import ObjectConsole.Text.Percent
import ObjectConsole.Text.Escaping
import ObjectConsole.Number.Word
import ObjectConsole.Number.FloatText
import ObjectConsole.Store.Table
import ObjectConsole.Value.Description
import ObjectConsole.Value.Primitive
import ObjectConsole.Reference.Coercion
import ObjectConsole.Operation.Script
import ObjectConsole.Operation.Demo
import ObjectConsole.Execution.Delegate
import ObjectConsole.Console.Handle
import ObjectConsole.Server.Serve
import ObjectConsole.Background.Sweeper
import ObjectConsole.Settings
import ObjectConsole.Main
import ObjectConsole.Proofs.Text.Utf8
import ObjectConsole.Proofs.Text.Decimal
import ObjectConsole.Proofs.Console.Invocation
import ObjectConsole.Proofs.Text.Html
import ObjectConsole.Proofs.Console.Listing
import ObjectConsole.Proofs.Console.CallLink
import ObjectConsole.Proofs.Reference.History
import ObjectConsole.Proofs.Execution.Delegation
import ObjectConsole.Proofs.Console.Dispatch
import ObjectConsole.Proofs.Console.Reachable
import ObjectConsole.Proofs.Console.Effect
import ObjectConsole.Proofs.Console.ResultPage
import ObjectConsole.Proofs.Console.Reported
import ObjectConsole.Proofs.Execution.Meeting
import ObjectConsole.Proofs.Execution.Handover
import ObjectConsole.Proofs.Operation.Catalog
import ObjectConsole.Proofs.Operation.Demo
import ObjectConsole.Proofs.Reference.Coercion
import ObjectConsole.Proofs.Console.ValueAddress
import ObjectConsole.Proofs.Console.TypedDispatch
import ObjectConsole.Proofs.Console.DelegateChoice
import ObjectConsole.Proofs.Execution.Shutting
import ObjectConsole.Proofs.Console.WireFormat
import ObjectConsole.Proofs.Value.Unfolding
import ObjectConsole.Proofs.Console.Template
import ObjectConsole.Proofs.Reference.AutomaticName
import ObjectConsole.Proofs.Server.Lifecycle
import ObjectConsole.Proofs.Recorded
import ObjectConsole.Proofs.Reference.Clients
import ObjectConsole.Proofs.Reference.Token
import ObjectConsole.Proofs.Console.Naming
import ObjectConsole.Proofs.Console.Chaining
import ObjectConsole.Proofs.Reference.Namespaces
import ObjectConsole.Proofs.Server.Draining
import ObjectConsole.Proofs.Server.Transparency
import ObjectConsole.Proofs.Server.LinkTargets
import ObjectConsole.Proofs.Console.FieldLink
import ObjectConsole.Proofs.Reference.Spelling
import ObjectConsole.Proofs.Background.Discipline
import ObjectConsole.Proofs.Background.Idling
import ObjectConsole.Proofs.Background.Ticking
import ObjectConsole.Proofs.Operation.Counters
import ObjectConsole.Proofs.Console.CounterRequests
import ObjectConsole.Proofs.Console.CounterTotals
import ObjectConsole.Proofs.Text.Component
import ObjectConsole.Proofs.Number.WordText
import ObjectConsole.Proofs.Reference.IntegerArgument
import ObjectConsole.Proofs.Reference.FreeName
import ObjectConsole.Proofs.Operation.ArraySet
import ObjectConsole.Proofs.Console.ArrayRequests
import ObjectConsole.Proofs.Console.Sharing
import ObjectConsole.Proofs.Value.Nesting
import ObjectConsole.Proofs.Console.EscapedText
import ObjectConsole.Proofs.Server.Redirects
import ObjectConsole.Proofs.Server.Waiting
import ObjectConsole.Proofs.Console.MemberPath
import ObjectConsole.Proofs.Console.Queries
import ObjectConsole.Proofs.Reference.Lookup
import ObjectConsole.Proofs.Console.ReceiverSpelling
