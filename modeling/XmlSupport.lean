import XmlSupport.Cli.Arguments
import XmlSupport.Cli.Run
import XmlSupport.Client.Failure
import XmlSupport.Client.Options
import XmlSupport.Commands.Arguments
import XmlSupport.Commands.Builtin
import XmlSupport.Commands.Operation
import XmlSupport.Commands.Registry
import XmlSupport.DataDirectory
import XmlSupport.Document.Location
import XmlSupport.Document.Position
import XmlSupport.Error
import XmlSupport.Indent.Action
import XmlSupport.Indent.Configuration
import XmlSupport.Indent.Rules
import XmlSupport.Indent.Scan
import XmlSupport.Json.Decode
import XmlSupport.Json.Fault
import XmlSupport.Json.Mismatch
import XmlSupport.Json.Printer
import XmlSupport.Json.Reader
import XmlSupport.Json.Scan
import XmlSupport.Json.Skip
import XmlSupport.Json.Value
import XmlSupport.KeyOrder
import XmlSupport.Language
import XmlSupport.Launch.Descriptor
import XmlSupport.Log.Directive
import XmlSupport.Log.Entry
import XmlSupport.Log.Filter
import XmlSupport.Log.ValuePattern
import XmlSupport.Log.Verbosity
import XmlSupport.Machine.Environment
import XmlSupport.Machine.Exit
import XmlSupport.Machine.Fault
import XmlSupport.Machine.Files
import XmlSupport.Machine.Layout
import XmlSupport.Machine.Path
import XmlSupport.Main
import XmlSupport.Markup.Token
import XmlSupport.Notification.Bridge
import XmlSupport.Notification.Channel
import XmlSupport.Notification.Message
import XmlSupport.Notification.Scope
import XmlSupport.Number.Binary64
import XmlSupport.Number.Shortest
import XmlSupport.Pattern.Basic
import XmlSupport.Pattern.Node
import XmlSupport.Pattern.Reader
import XmlSupport.Pattern.Search
import XmlSupport.Proofs.Cli.Agreement
import XmlSupport.Proofs.Cli.Options
import XmlSupport.Proofs.Commands.Builtin
import XmlSupport.Proofs.Commands.History
import XmlSupport.Proofs.Commands.ShowReferences
import XmlSupport.Proofs.Document.Position
import XmlSupport.Proofs.Except
import XmlSupport.Proofs.Indent.Alphabet
import XmlSupport.Proofs.Indent.Decrease
import XmlSupport.Proofs.Indent.Enter
import XmlSupport.Proofs.Indent.Increase
import XmlSupport.Proofs.Indent.Marks
import XmlSupport.Proofs.Indent.Published
import XmlSupport.Proofs.Json.Fields
import XmlSupport.Proofs.Json.Grammar
import XmlSupport.Proofs.Json.Printing
import XmlSupport.Proofs.Json.Reading
import XmlSupport.Proofs.Json.Skip
import XmlSupport.Proofs.Json.Spelling
import XmlSupport.Proofs.Launch.Document
import XmlSupport.Proofs.Launch.Sources
import XmlSupport.Proofs.Machine.Files
import XmlSupport.Proofs.Markup.Enter
import XmlSupport.Proofs.Markup.Increase
import XmlSupport.Proofs.Markup.Rendering
import XmlSupport.Proofs.Notification.Handling
import XmlSupport.Proofs.Notification.Message
import XmlSupport.Proofs.Notification.Severity
import XmlSupport.Proofs.Notification.Wire
import XmlSupport.Proofs.Pattern.Case
import XmlSupport.Proofs.Pattern.Sequence
import XmlSupport.Proofs.Pattern.Ways
import XmlSupport.Proofs.Relay.Delivery
import XmlSupport.Proofs.Relay.Report
import XmlSupport.Proofs.Session.Activation
import XmlSupport.Proofs.Session.Ensures
import XmlSupport.Proofs.Session.Groups
import XmlSupport.Proofs.Session.Run
import XmlSupport.Proofs.Settings.Agreement
import XmlSupport.Proofs.Settings.Members
import XmlSupport.Proofs.Settings.Text
import XmlSupport.Proofs.Text.Order
import XmlSupport.Proofs.Text.Runs
import XmlSupport.Proofs.Text.Utf8
import XmlSupport.Relay.Basic
import XmlSupport.Relay.Server
import XmlSupport.Relay.Steps
import XmlSupport.Session.Extension
import XmlSupport.Session.Interaction
import XmlSupport.Session.Request
import XmlSupport.Settings.Basic
import XmlSupport.Settings.Load
import XmlSupport.Settings.Reader
import XmlSupport.Shell.Arithmetic
import XmlSupport.Shell.Builtin
import XmlSupport.Shell.Command
import XmlSupport.Shell.Condition
import XmlSupport.Shell.Field
import XmlSupport.Shell.Format
import XmlSupport.Shell.Glob
import XmlSupport.Shell.Input
import XmlSupport.Shell.Lookup
import XmlSupport.Shell.Program.Basic
import XmlSupport.Shell.Program.Catalog
import XmlSupport.Shell.Program.Filter
import XmlSupport.Shell.Program.Tree
import XmlSupport.Shell.Reader.Script
import XmlSupport.Shell.Reader.Token
import XmlSupport.Shell.Redirect
import XmlSupport.Shell.Run
import XmlSupport.Shell.Start
import XmlSupport.Shell.State
import XmlSupport.Shell.Text
import XmlSupport.Shell.Wildcard
import XmlSupport.Shell.World
import XmlSupport.SortedMap
import XmlSupport.Text.Alphanumeric
import XmlSupport.Text.Blank
import XmlSupport.Text.Composed
import XmlSupport.Text.Mark
import XmlSupport.Text.Quoted
import XmlSupport.Text.Ranges
import XmlSupport.Text.Unprintable
import XmlSupport.Text.Utf8
import XmlSupport.Uri.Address
import XmlSupport.Uri.Basic
import XmlSupport.Uri.Host
import XmlSupport.Uri.Label.Admitted
import XmlSupport.Uri.Label.Basic
import XmlSupport.Uri.Label.Direction
import XmlSupport.Uri.Label.Joiner
import XmlSupport.Uri.Path
import XmlSupport.Uri.Percent
import XmlSupport.Uri.Punycode
import XmlSupport.Uri.Reader
import XmlSupport.Uri.Scheme
import XmlSupport.Uri.Visible
import XmlSupport.Proofs.Json.Passing
import XmlSupport.Proofs.Settings.Insertion
import XmlSupport.Launch.Child
import XmlSupport.Proofs.Launch.Bundled
import XmlSupport.Proofs.Launch.Views
import XmlSupport.Proofs.Cli.Output
import XmlSupport.Proofs.Indent.Surroundings
import XmlSupport.Proofs.DataDirectory
