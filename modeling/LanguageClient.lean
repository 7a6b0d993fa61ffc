import LanguageClient.Backoff
import LanguageClient.Channel
import LanguageClient.CommandLine.Arguments
import LanguageClient.CommandLine.Run
import LanguageClient.Connection.Basic
import LanguageClient.Connection.Documents
import LanguageClient.Connection.Question
import LanguageClient.Decimal.Double
import LanguageClient.Decimal.Shortest
import LanguageClient.Diagnostic.Basic
import LanguageClient.Diagnostic.Store
import LanguageClient.Diagnostic.Wire
import LanguageClient.Document
import LanguageClient.Environment
import LanguageClient.Error
import LanguageClient.FilePattern.Basic
import LanguageClient.FilePattern.Parser
import LanguageClient.Frame
import LanguageClient.Json.Basic
import LanguageClient.Json.Number
import LanguageClient.Json.Parser
import LanguageClient.Json.Printer
import LanguageClient.Json.Raw
import LanguageClient.Json.Record
import LanguageClient.Machine.Basic
import LanguageClient.Machine.Files
import LanguageClient.Machine.ScriptedServer
import LanguageClient.Machine.Shell
import LanguageClient.Main
import LanguageClient.Message.Incoming
import LanguageClient.Message.Outgoing
import LanguageClient.Message.Params
import LanguageClient.Path
import LanguageClient.Position
import LanguageClient.Proofs.Connection.Completion
import LanguageClient.Proofs.Connection.Documents
import LanguageClient.Proofs.Connection.ExactlyOnce
import LanguageClient.Proofs.Connection.Handshake
import LanguageClient.Proofs.Connection.Ids
import LanguageClient.Proofs.Connection.Lifecycle
import LanguageClient.Proofs.Connection.Operation
import LanguageClient.Proofs.Connection.Steps
import LanguageClient.Proofs.Connection.Traffic
import LanguageClient.Proofs.Connection.View
import LanguageClient.Proofs.Document
import LanguageClient.Proofs.Json.Object
import LanguageClient.Proofs.Message.Outgoing
import LanguageClient.Proofs.Message.Response
import LanguageClient.Proofs.Table
import LanguageClient.Proofs.Transport.Mortal
import LanguageClient.Proofs.Transport.Recorder
import LanguageClient.Proofs.Transport.Used
import LanguageClient.Proofs.Uri.File
import LanguageClient.Proofs.Uri.Percent
import LanguageClient.Proofs.Workspace.Agreement
import LanguageClient.Proofs.Workspace.Handshake
import LanguageClient.Proofs.Workspace.LastText
import LanguageClient.Proofs.Workspace.Operation
import LanguageClient.Proofs.Workspace.Recorded
import LanguageClient.Proofs.Workspace.ServerAgreement
import LanguageClient.Proofs.Workspace.Slot
import LanguageClient.Proofs.Workspace.SlotChange
import LanguageClient.Reply.Answer
import LanguageClient.Reply.CodeAction
import LanguageClient.Reply.Completion
import LanguageClient.Reply.Hover
import LanguageClient.Reply.Location
import LanguageClient.Reply.Markup
import LanguageClient.Reply.Outline
import LanguageClient.Reply.RenameTarget
import LanguageClient.Reply.SignatureHelp
import LanguageClient.Reply.TextEdit
import LanguageClient.ServerProcess.Basic
import LanguageClient.ServerProcess.Settings
import LanguageClient.Settings.Basic
import LanguageClient.Settings.Document
import LanguageClient.Table
import LanguageClient.Text.Blank
import LanguageClient.Text.Digits
import LanguageClient.Text.Split
import LanguageClient.Text.Utf16
import LanguageClient.Text.Utf8
import LanguageClient.Toml.Basic
import LanguageClient.Toml.Parser
import LanguageClient.Toml.Quoted
import LanguageClient.Toml.Record
import LanguageClient.Toml.Scalar
import LanguageClient.Toml.Tree
import LanguageClient.Transport
import LanguageClient.Unicode.Composition
import LanguageClient.Unicode.Composition.Table
import LanguageClient.Unicode.Direction
import LanguageClient.Unicode.Joining
import LanguageClient.Unicode.Mapping
import LanguageClient.Unicode.Mapping.Table
import LanguageClient.Unicode.Marks
import LanguageClient.Unicode.Runs
import LanguageClient.Uri.Basic
import LanguageClient.Uri.Domain
import LanguageClient.Uri.File
import LanguageClient.Uri.Host
import LanguageClient.Uri.Percent
import LanguageClient.Uri.Punycode
import LanguageClient.Uri.Segments
import LanguageClient.Workspace.Basic
import LanguageClient.Workspace.Event
import LanguageClient.Workspace.Operations
import LanguageClient.Workspace.Routing
import LanguageClient.Proofs.Frame.Lines
import LanguageClient.Proofs.Text.Ascii
import LanguageClient.Proofs.Frame.Grammar
import LanguageClient.Proofs.Frame.RoundTrip
import LanguageClient.Proofs.Connection.Talk
import LanguageClient.Proofs.Connection.Failure
import LanguageClient.Proofs.Connection.Spared
import LanguageClient.Proofs.Message.Envelope
import LanguageClient.Proofs.Connection.Dispatch
import LanguageClient.Proofs.Connection.Opening
import LanguageClient.Proofs.Workspace.Accepted
import LanguageClient.Proofs.Workspace.Invariant
import LanguageClient.Proofs.Workspace.Opening
import LanguageClient.Proofs.Workspace.Queue
import LanguageClient.Proofs.Workspace.Reports
import LanguageClient.Proofs.Workspace.Parts
import LanguageClient.Proofs.Workspace.Discipline
import LanguageClient.Proofs.Workspace.Closing
import LanguageClient.Proofs.Transport.Restarts
import LanguageClient.Proofs.Connection.Heard
import LanguageClient.Proofs.Workspace.Recovery
import LanguageClient.Proofs.Workspace.Happening
import LanguageClient.Proofs.Workspace.Reading
import LanguageClient.Proofs.Workspace.Publications
import LanguageClient.Proofs.Connection.Bookkeeping
import LanguageClient.Proofs.Workspace.Order
import LanguageClient.Proofs.Connection.Farewell
import LanguageClient.Proofs.Workspace.Waiting
import LanguageClient.Proofs.Workspace.Shutdown
import LanguageClient.Proofs.Transport.Mailbox
import LanguageClient.Proofs.Connection.Mirror
import LanguageClient.Proofs.Workspace.Mirror
import LanguageClient.Proofs.Workspace.Concluded
import LanguageClient.Proofs.Workspace.Slices
import LanguageClient.Proofs.Workspace.Notice
import LanguageClient.Proofs.Frame.Reader
import LanguageClient.Proofs.ServerProcess.Receiving
import LanguageClient.Proofs.Frame.Spoiled
import LanguageClient.Proofs.Frame.Cut
import LanguageClient.Proofs.Reply.SignatureHelp
import LanguageClient.Proofs.Text.Utf16
import LanguageClient.Proofs.Json.Record
import LanguageClient.Proofs.Position
import LanguageClient.Proofs.Reply.Outline
import LanguageClient.Proofs.Reply.Elements
import LanguageClient.Proofs.Reply.Parameter
import LanguageClient.Proofs.Connection.Listed
import LanguageClient.Proofs.Text.Order
import LanguageClient.Proofs.Selection
import LanguageClient.Proofs.Json.Kind
import LanguageClient.Proofs.Reply.WorkspaceEdit
import LanguageClient.Proofs.Diagnostic.Wire
import LanguageClient.Proofs.Diagnostic.Store
import LanguageClient.Proofs.FilePattern.Levels
import LanguageClient.Proofs.Workspace.Routing
import LanguageClient.Proofs.Environment
import LanguageClient.Proofs.Reply.Member
import LanguageClient.Proofs.Reply.Completion
import LanguageClient.Proofs.Reply.Hover
import LanguageClient.Proofs.Path
import LanguageClient.Proofs.Workspace.Apart
import LanguageClient.Proofs.Workspace.Files
import LanguageClient.Proofs.Uri.RoundTrip
