import Metasearch.Browser
import Metasearch.ByteSize
import Metasearch.Calendar.Canonical
import Metasearch.Calendar.Date
import Metasearch.Calendar.Instant
import Metasearch.Calendar.Pattern
import Metasearch.Calendar.Reader
import Metasearch.Calendar.Writer
import Metasearch.Category
import Metasearch.CommandLine.Reader
import Metasearch.CommandLine.Report
import Metasearch.CommandLine.Run
import Metasearch.CommandLine.Shape
import Metasearch.Definition.Basic
import Metasearch.Definition.Error
import Metasearch.Document.Definition
import Metasearch.Document.Item
import Metasearch.Document.Query
import Metasearch.Document.Settings
import Metasearch.Extraction
import Metasearch.Files.Basic
import Metasearch.Files.Tree
import Metasearch.Filter
import Metasearch.Indexer.Basic
import Metasearch.Indexer.Login
import Metasearch.Indexer.Search
import Metasearch.Item
import Metasearch.Json.Basic
import Metasearch.Json.Reader
import Metasearch.Json.Shape
import Metasearch.Json.Writer
import Metasearch.Layout
import Metasearch.Main
import Metasearch.Markup.Arena
import Metasearch.Markup.Builder
import Metasearch.Markup.Document
import Metasearch.Markup.Element
import Metasearch.Markup.Entity
import Metasearch.Markup.Foreign
import Metasearch.Markup.Place
import Metasearch.Markup.Reference
import Metasearch.Markup.Rules
import Metasearch.Markup.Style
import Metasearch.Markup.Token
import Metasearch.Metrics
import Metasearch.Number.Binary64
import Metasearch.Number.Integer
import Metasearch.Offline
import Metasearch.Page
import Metasearch.Pattern.Basic
import Metasearch.Pattern.Match
import Metasearch.Pattern.Reader
import Metasearch.Query
import Metasearch.Rehearsal
import Metasearch.Rehearsal.Tracker
import Metasearch.RelativeTime
import Metasearch.Selector.Basic
import Metasearch.Selector.Match
import Metasearch.Selector.Reader
import Metasearch.Selector.Token
import Metasearch.Settings.Basic
import Metasearch.Settings.Environment
import Metasearch.Settings.File
import Metasearch.Settings.Store
import Metasearch.Template.Basic
import Metasearch.Template.Reader
import Metasearch.Template.Render
import Metasearch.Template.Value
import Metasearch.Text.Blank
import Metasearch.Text.Letter
import Metasearch.Text.Quoted
import Metasearch.Text.Search
import Metasearch.Text.Utf8
import Metasearch.Toml.Reader
import Metasearch.Toml.Table
import Metasearch.Url.Basic
import Metasearch.Url.Domain
import Metasearch.Url.Escape
import Metasearch.Url.Query
import Metasearch.Url.Reader
import Metasearch.Proofs.ActionWords
import Metasearch.Proofs.AddressTexts
import Metasearch.Proofs.BuiltItems
import Metasearch.Proofs.CalendarDays
import Metasearch.Proofs.CalendarUnits
import Metasearch.Proofs.CanonicalTimestamps
import Metasearch.Proofs.CategoryListings
import Metasearch.Proofs.CheckedDefinitions
import Metasearch.Proofs.CommandLines
import Metasearch.Proofs.CommandRuns
import Metasearch.Proofs.CommandWords
import Metasearch.Proofs.DateValues
import Metasearch.Proofs.DayWords
import Metasearch.Proofs.DecimalNumbers
import Metasearch.Proofs.Downloads
import Metasearch.Proofs.EightPieces
import Metasearch.Proofs.EscapedText
import Metasearch.Proofs.FieldOrder
import Metasearch.Proofs.FixedNodes
import Metasearch.Proofs.FixedUnits
import Metasearch.Proofs.FormFields
import Metasearch.Proofs.FourBytes
import Metasearch.Proofs.FractionsOfUnits
import Metasearch.Proofs.GivenValues
import Metasearch.Proofs.HostTexts
import Metasearch.Proofs.IntegerTexts
import Metasearch.Proofs.JsonTexts
import Metasearch.Proofs.KeptFields
import Metasearch.Proofs.Keywords
import Metasearch.Proofs.LabelCode
import Metasearch.Proofs.LayoutPieces
import Metasearch.Proofs.LayoutRoundTrips
import Metasearch.Proofs.LoginAttempts
import Metasearch.Proofs.LoginFailures
import Metasearch.Proofs.NetworkNames
import Metasearch.Proofs.NodeForests
import Metasearch.Proofs.OperationCounts
import Metasearch.Proofs.Outcomes
import Metasearch.Proofs.OverlaidTables
import Metasearch.Proofs.Overrides
import Metasearch.Proofs.PageBuilding
import Metasearch.Proofs.PageRoots
import Metasearch.Proofs.PageTrees
import Metasearch.Proofs.PatternMatches
import Metasearch.Proofs.PatternWays
import Metasearch.Proofs.PhraseJoins
import Metasearch.Proofs.PhraseNumbers
import Metasearch.Proofs.PhrasePieces
import Metasearch.Proofs.PhraseWords
import Metasearch.Proofs.QueryPairs
import Metasearch.Proofs.QueryParameters
import Metasearch.Proofs.RawInput
import Metasearch.Proofs.ReadAddresses
import Metasearch.Proofs.ReadIntegers
import Metasearch.Proofs.ReadParts
import Metasearch.Proofs.ReadPatterns
import Metasearch.Proofs.ReadTables
import Metasearch.Proofs.ReadTimestamps
import Metasearch.Proofs.RepeatedAttempts
import Metasearch.Proofs.ReplacedText
import Metasearch.Proofs.RepresentedNumbers
import Metasearch.Proofs.RequestParameters
import Metasearch.Proofs.RequestedCategories
import Metasearch.Proofs.ResultRows
import Metasearch.Proofs.RoundedQuotients
import Metasearch.Proofs.RowCounts
import Metasearch.Proofs.RowValues
import Metasearch.Proofs.Searches
import Metasearch.Proofs.SelectedText
import Metasearch.Proofs.Sessions
import Metasearch.Proofs.ShownCounts
import Metasearch.Proofs.SiteAddresses
import Metasearch.Proofs.SiteTests
import Metasearch.Proofs.SizeTexts
import Metasearch.Proofs.TemplateJoins
import Metasearch.Proofs.TemplateText
import Metasearch.Proofs.TextBytes
import Metasearch.Proofs.TextFragments
import Metasearch.Proofs.TokenLengths
import Metasearch.Proofs.ToldParts
import Metasearch.Proofs.TrimMarkers
import Metasearch.Proofs.TrimmedTrees
import Metasearch.Proofs.VariableNames
import Metasearch.Proofs.VariableValues
import Metasearch.Proofs.Visits
import Metasearch.Proofs.WholeSizes
import Metasearch.Proofs.WrittenLayouts
import Metasearch.Proofs.WrittenRecords
