import MarkerLint.Audit.Command
import MarkerLint.Audit.RawLog
import MarkerLint.Audit.Report
import MarkerLint.Audit.Result
import MarkerLint.Audit.Run
import MarkerLint.Audit.Terminal
import MarkerLint.Calendar
import MarkerLint.Checker
import MarkerLint.CommandLine
import MarkerLint.CommandLine.Invocation
import MarkerLint.Configuration
import MarkerLint.Configuration.File
import MarkerLint.Diagnostic
import MarkerLint.Fault
import MarkerLint.Files
import MarkerLint.Inspection
import MarkerLint.Json
import MarkerLint.Log
import MarkerLint.Main
import MarkerLint.Marker
import MarkerLint.Moment
import MarkerLint.Number.Amount
import MarkerLint.Number.Binary64
import MarkerLint.Number.Decimal
import MarkerLint.Number.Digits
import MarkerLint.Number.Fraction
import MarkerLint.Number.Power
import MarkerLint.Number.Shortest
import MarkerLint.Plugin
import MarkerLint.Proofs.Accepted
import MarkerLint.Proofs.AuditCounts
import MarkerLint.Proofs.CheckAnswers
import MarkerLint.Proofs.CodeNumbers
import MarkerLint.Proofs.Containment
import MarkerLint.Proofs.ContradictionKeys
import MarkerLint.Proofs.ContradictionVerdict
import MarkerLint.Proofs.DeclaredLookup
import MarkerLint.Proofs.DeclaredMessages
import MarkerLint.Proofs.Degradation
import MarkerLint.Proofs.Delivery
import MarkerLint.Proofs.DisabledRules
import MarkerLint.Proofs.Elementwise
import MarkerLint.Proofs.ExactBreakdown
import MarkerLint.Proofs.ExcludedPaths
import MarkerLint.Proofs.ExitStatus
import MarkerLint.Proofs.FilledTemplates
import MarkerLint.Proofs.Findings
import MarkerLint.Proofs.HostOptions
import MarkerLint.Proofs.Independence
import MarkerLint.Proofs.InstructionsAnswered
import MarkerLint.Proofs.JsonCharacters
import MarkerLint.Proofs.JsonDocuments
import MarkerLint.Proofs.JsonNumbers
import MarkerLint.Proofs.JsonReader
import MarkerLint.Proofs.KeywordForm
import MarkerLint.Proofs.LastEntry
import MarkerLint.Proofs.LineCodec
import MarkerLint.Proofs.Literals
import MarkerLint.Proofs.LowerBlanks
import MarkerLint.Proofs.MatchedLines
import MarkerLint.Proofs.MessageSearch
import MarkerLint.Proofs.NearestFile
import MarkerLint.Proofs.NormalForm
import MarkerLint.Proofs.PlainTemplate
import MarkerLint.Proofs.PreconditionReports
import MarkerLint.Proofs.PrintedInspection
import MarkerLint.Proofs.PrintedTable
import MarkerLint.Proofs.Registration
import MarkerLint.Proofs.RegistryReaders
import MarkerLint.Proofs.RemainingRules
import MarkerLint.Proofs.ReportLines
import MarkerLint.Proofs.Reporting
import MarkerLint.Proofs.Rounding
import MarkerLint.Proofs.RuleListing
import MarkerLint.Proofs.SettingsExamined
import MarkerLint.Proofs.SharedTokens
import MarkerLint.Proofs.ShortestDigits
import MarkerLint.Proofs.StyledText
import MarkerLint.Proofs.SummaryAccounts
import MarkerLint.Proofs.SummaryAlignment
import MarkerLint.Proofs.SummaryOrder
import MarkerLint.Proofs.SummaryRows
import MarkerLint.Proofs.SummarySheet
import MarkerLint.Proofs.SurrogatePairs
import MarkerLint.Proofs.TimelineVerdict
import MarkerLint.Proofs.UnreadFields
import MarkerLint.Proofs.WordLayout
import MarkerLint.Proofs.WrittenDates
import MarkerLint.Proofs.WrittenFields
import MarkerLint.Registry
import MarkerLint.Registry.Guidance
import MarkerLint.Registry.Packaged
import MarkerLint.Rule
import MarkerLint.Rule.Budget
import MarkerLint.Rule.Catalog
import MarkerLint.Rule.Contradiction
import MarkerLint.Rule.Duration
import MarkerLint.Rule.Timeline
import MarkerLint.Rule.Validation
import MarkerLint.Services
import MarkerLint.Source.Computed
import MarkerLint.Source.Cursor
import MarkerLint.Source.Grammar.Expression
import MarkerLint.Source.Grammar.Pattern
import MarkerLint.Source.Grammar.Statement
import MarkerLint.Source.Lexer
import MarkerLint.Source.NumberLiteral
import MarkerLint.Source.Reader
import MarkerLint.Source.Rendering
import MarkerLint.Source.Target
import MarkerLint.Source.TextLiteral
import MarkerLint.Source.Token
import MarkerLint.Source.Tree
import MarkerLint.Summary
import MarkerLint.Table
import MarkerLint.Template
import MarkerLint.Text.Ascending
import MarkerLint.Text.Blank
import MarkerLint.Text.Case
import MarkerLint.Text.CaseTable
import MarkerLint.Text.CharClass
import MarkerLint.Text.CharacterNames
import MarkerLint.Text.CodePoint
import MarkerLint.Text.Escapes
import MarkerLint.Text.IdentifierTable
import MarkerLint.Text.Lines
import MarkerLint.Text.Margin
import MarkerLint.Text.PrintableTable
import MarkerLint.Text.Quoted
import MarkerLint.Text.Ranges
import MarkerLint.Text.Search
import MarkerLint.Text.Utf8
import MarkerLint.Text.WordTable
import MarkerLint.Toml.Numbers
import MarkerLint.Toml.Reading
import MarkerLint.Toml.Strings
import MarkerLint.Toml.Tree
import MarkerLint.Value
import MarkerLint.Value.Text
