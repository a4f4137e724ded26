import OpeningTimes.Calendar.Month
import OpeningTimes.Calendar.Weekday
import OpeningTimes.Command.Arguments
import OpeningTimes.Command.Help
import OpeningTimes.Command.Host
import OpeningTimes.Command.Run
import OpeningTimes.Double.Shortest
import OpeningTimes.Double.Text
import OpeningTimes.Editing
import OpeningTimes.Error
import OpeningTimes.Exchange
import OpeningTimes.Grouping
import OpeningTimes.Joining
import OpeningTimes.Json.Decoder
import OpeningTimes.Json.Fault
import OpeningTimes.Json.Message
import OpeningTimes.Json.Number
import OpeningTimes.Json.Record
import OpeningTimes.Json.Report
import OpeningTimes.Json.Scan
import OpeningTimes.Json.Skip
import OpeningTimes.Json.Value
import OpeningTimes.Loading
import OpeningTimes.Log.Filter
import OpeningTimes.Log.Line
import OpeningTimes.Log.Record
import OpeningTimes.Log.Setting
import OpeningTimes.Main
import OpeningTimes.Pattern.Basic
import OpeningTimes.Pattern.Notation
import OpeningTimes.Rule.Basic
import OpeningTimes.Rule.Contract
import OpeningTimes.Rule.Decoding
import OpeningTimes.Rule.Encoding
import OpeningTimes.Rule.Kind
import OpeningTimes.Rule.Names
import OpeningTimes.Rule.Tabled
import OpeningTimes.Selector.Date
import OpeningTimes.Selector.Day
import OpeningTimes.Selector.Time
import OpeningTimes.Text.Case
import OpeningTimes.Text.CaseProperty
import OpeningTimes.Text.CaseTable
import OpeningTimes.Text.CodeSpan
import OpeningTimes.Text.HiddenTable
import OpeningTimes.Text.Numeral
import OpeningTimes.Text.Pieces
import OpeningTimes.Text.Quoted
import OpeningTimes.Text.Terminal
import OpeningTimes.Proofs.Grouping.Characterization
import OpeningTimes.Proofs.Grouping.Selection
import OpeningTimes.Proofs.Json.Integer
import OpeningTimes.Proofs.Json.Layout
import OpeningTimes.Proofs.Json.Trees
import OpeningTimes.Proofs.Rule.RoundTrip
import OpeningTimes.Proofs.Text.Legible
import OpeningTimes.Proofs.Text.Selectors
import OpeningTimes.Proofs.Rule.Framed
import OpeningTimes.Proofs.Text.Places
import OpeningTimes.Proofs.Text.Labelled
import OpeningTimes.Proofs.Text.Grammar
import OpeningTimes.Proofs.Joining
import OpeningTimes.Proofs.Text.Case
import OpeningTimes.Proofs.Text.Edges
import OpeningTimes.Proofs.Text.Renderings
import OpeningTimes.Proofs.Text.Sections
import OpeningTimes.Proofs.Text.Single
import OpeningTimes.Proofs.Calendar.Weekday
import OpeningTimes.Proofs.Command.Effects
import OpeningTimes.Proofs.Command.Logging
import OpeningTimes.Proofs.Command.Options
import OpeningTimes.Proofs.Log.Setting
import OpeningTimes.Proofs.Json.Passing
import OpeningTimes.Proofs.Json.Skimming
import OpeningTimes.Proofs.Json.Accepting
import OpeningTimes.Proofs.Json.Changes
import OpeningTimes.Proofs.Rule.Changes
import OpeningTimes.Proofs.Grouping.Classes
import OpeningTimes.Proofs.Grouping.Regrouping
import OpeningTimes.Proofs.Rule.Feedback
import OpeningTimes.Proofs.Json.Spelling
import OpeningTimes.Proofs.Grouping.Decisions
import OpeningTimes.Proofs.Text.LineBreaks
import OpeningTimes.Proofs.Command.Lines
import OpeningTimes.Proofs.Json.Unspelling
import OpeningTimes.Proofs.Json.Recognizing
import OpeningTimes.Proofs.Json.Reflecting
import OpeningTimes.Proofs.Json.ReflectingRecords
import OpeningTimes.Proofs.Json.Judging
import OpeningTimes.Proofs.Rule.Renaming
import OpeningTimes.Proofs.Rule.Objections
