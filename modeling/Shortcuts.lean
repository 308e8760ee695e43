import Shortcuts.Arguments
import Shortcuts.Binding.Basic
import Shortcuts.Binding.Error
import Shortcuts.Binding.Parser
import Shortcuts.Chord
import Shortcuts.CommandLine.Outcome
import Shortcuts.CommandLine.Request
import Shortcuts.CommandLine.Usage
import Shortcuts.Condition.Basic
import Shortcuts.Condition.Parser
import Shortcuts.Condition.Printer
import Shortcuts.Condition.Token
import Shortcuts.Context
import Shortcuts.Decimal.Natural
import Shortcuts.Decimal.Numeral
import Shortcuts.Decimal.Shortest
import Shortcuts.Dispatcher.Basic
import Shortcuts.Dispatcher.Snapshot
import Shortcuts.Dispatcher.Step
import Shortcuts.Gesture
import Shortcuts.Input
import Shortcuts.Key.Basic
import Shortcuts.Key.Name
import Shortcuts.Keymap.Builtin
import Shortcuts.Keymap.Document
import Shortcuts.Keymap.Error
import Shortcuts.Keymap.Layers
import Shortcuts.Layering
import Shortcuts.Location
import Shortcuts.Main
import Shortcuts.Modifiers
import Shortcuts.MouseButton
import Shortcuts.Payload
import Shortcuts.Proofs.Binding.Combinations
import Shortcuts.Proofs.Binding.Decoding
import Shortcuts.Proofs.Binding.Encoding
import Shortcuts.Proofs.Binding.Names
import Shortcuts.Proofs.Binding.PatternDecoding
import Shortcuts.Proofs.Binding.PatternEncoding
import Shortcuts.Proofs.Condition.Canonical
import Shortcuts.Proofs.Condition.Composition
import Shortcuts.Proofs.Condition.Descent
import Shortcuts.Proofs.Condition.Flat
import Shortcuts.Proofs.Condition.Formed
import Shortcuts.Proofs.Condition.Grammar
import Shortcuts.Proofs.Condition.RoundTrip
import Shortcuts.Proofs.Condition.Scanning
import Shortcuts.Proofs.Decimal.Characters
import Shortcuts.Proofs.Decimal.Digits
import Shortcuts.Proofs.Dispatcher.Accounts
import Shortcuts.Proofs.Dispatcher.AlikeTables
import Shortcuts.Proofs.Dispatcher.ChordNotices
import Shortcuts.Proofs.Dispatcher.Coherence
import Shortcuts.Proofs.Dispatcher.Decision
import Shortcuts.Proofs.Dispatcher.Devices
import Shortcuts.Proofs.Dispatcher.Executors
import Shortcuts.Proofs.Dispatcher.Gestures
import Shortcuts.Proofs.Dispatcher.History
import Shortcuts.Proofs.Dispatcher.Justification
import Shortcuts.Proofs.Dispatcher.LivenessChecks
import Shortcuts.Proofs.Dispatcher.MouseRules
import Shortcuts.Proofs.Dispatcher.NormalKeys
import Shortcuts.Proofs.Dispatcher.Notices
import Shortcuts.Proofs.Dispatcher.Polling
import Shortcuts.Proofs.Dispatcher.Reaction
import Shortcuts.Proofs.Dispatcher.Repeats
import Shortcuts.Proofs.Dispatcher.Run
import Shortcuts.Proofs.Dispatcher.Transition
import Shortcuts.Proofs.Dispatcher.Unwinding
import Shortcuts.Proofs.Except
import Shortcuts.Proofs.Layering.Remaining
import Shortcuts.Proofs.Payload.ArgumentCount
import Shortcuts.Proofs.Payload.Filling
import Shortcuts.Proofs.Payload.Placeholders
import Shortcuts.Proofs.Payload.Places
import Shortcuts.Proofs.Resolution.ChordMode
import Shortcuts.Proofs.Resolution.Deciding
import Shortcuts.Proofs.Resolution.Inverse
import Shortcuts.Proofs.Resolution.LastWins
import Shortcuts.Proofs.Resolution.Layers
import Shortcuts.Proofs.Resolution.Scan
import Shortcuts.Proofs.Resolution.Unbinding
import Shortcuts.Proofs.Script.Bookkeeping
import Shortcuts.Proofs.Script.Checks
import Shortcuts.Proofs.Script.Plays
import Shortcuts.Proofs.Script.Steps
import Shortcuts.Proofs.Script.Waiting
import Shortcuts.Proofs.Text.Blank
import Shortcuts.Proofs.Text.Lowercase
import Shortcuts.Proofs.Text.Pieces
import Shortcuts.Rule
import Shortcuts.RuleIndex
import Shortcuts.RuleTable
import Shortcuts.Script.Basic
import Shortcuts.Script.Play
import Shortcuts.Script.Report
import Shortcuts.Settings
import Shortcuts.Text.Alphanumeric
import Shortcuts.Text.AlphanumericTable
import Shortcuts.Text.Blank
import Shortcuts.Text.Case
import Shortcuts.Text.CaseTable
import Shortcuts.Text.CodePoints
import Shortcuts.Text.Column
import Shortcuts.Text.ConcealedTable
import Shortcuts.Text.Quoted
import Shortcuts.WindowKey
import Shortcuts.Yaml.Cursor
import Shortcuts.Yaml.Field
import Shortcuts.Yaml.Node
import Shortcuts.Yaml.Plain
import Shortcuts.Yaml.Scalar
import Shortcuts.Yaml.Tag
import Shortcuts.Yaml.Token
import Shortcuts.Proofs.Binding.Marks
import Shortcuts.Proofs.Walk
import Shortcuts.Proofs.Condition.ScanWalk
import Shortcuts.Proofs.Condition.DescentWalk
