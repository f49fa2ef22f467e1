import StructGen.CommandLine.Console
import StructGen.CommandLine.Emoji
import StructGen.CommandLine.EmojiCodes
import StructGen.CommandLine.Options
import StructGen.CommandLine.Run
import StructGen.Decimal.Shortest
import StructGen.Failure
import StructGen.Files
import StructGen.Generation
import StructGen.Go.Compiled
import StructGen.Go.Declaration
import StructGen.Go.Layouts
import StructGen.Go.Type
import StructGen.Json.Basic
import StructGen.Json.Distinct
import StructGen.Json.Literal
import StructGen.Json.Reader
import StructGen.Loading
import StructGen.Logger
import StructGen.Main
import StructGen.Metaschema.Check
import StructGen.Naming.Camel
import StructGen.Naming.GoName
import StructGen.Naming.Initialism
import StructGen.Notice
import StructGen.Pattern.Escape
import StructGen.Pattern.Reader
import StructGen.Pattern.Token
import StructGen.Pattern.Width
import StructGen.Pointer
import StructGen.Proofs.AddedDefinitions
import StructGen.Proofs.Blame
import StructGen.Proofs.Building
import StructGen.Proofs.CanonicalLayout
import StructGen.Proofs.ChosenInitialisms
import StructGen.Proofs.CommandRuns
import StructGen.Proofs.CommentedDescriptions
import StructGen.Proofs.CompiledText
import StructGen.Proofs.Compiling
import StructGen.Proofs.Cycles
import StructGen.Proofs.Declarations
import StructGen.Proofs.DeclaredText
import StructGen.Proofs.DefaultStyle
import StructGen.Proofs.DefinitionPaths
import StructGen.Proofs.Discovery
import StructGen.Proofs.EnteredPlaces
import StructGen.Proofs.ExportedNames
import StructGen.Proofs.FaithfulGraph
import StructGen.Proofs.FormatWarnings
import StructGen.Proofs.FreshNames
import StructGen.Proofs.FreshReadings
import StructGen.Proofs.GeneratedSource
import StructGen.Proofs.JoinedNames
import StructGen.Proofs.KeptLines
import StructGen.Proofs.KeyOrder
import StructGen.Proofs.Lines
import StructGen.Proofs.LoadingFailures
import StructGen.Proofs.LongNumbers
import StructGen.Proofs.MergedSettings
import StructGen.Proofs.MessageFields
import StructGen.Proofs.MessageNames
import StructGen.Proofs.NameCharacters
import StructGen.Proofs.NameHistories
import StructGen.Proofs.Outcome
import StructGen.Proofs.Parts
import StructGen.Proofs.PlainDocuments
import StructGen.Proofs.PointerPlacement
import StructGen.Proofs.Reading
import StructGen.Proofs.ReadingFailures
import StructGen.Proofs.RecasedNames
import StructGen.Proofs.Redescribed
import StructGen.Proofs.RedescribedReading
import StructGen.Proofs.ReferenceChains
import StructGen.Proofs.Reformatting
import StructGen.Proofs.Reordering
import StructGen.Proofs.Resolving
import StructGen.Proofs.Scopes
import StructGen.Proofs.SettingsFailures
import StructGen.Proofs.SortedKeys
import StructGen.Proofs.SourceLines
import StructGen.Proofs.TwinGraphs
import StructGen.Proofs.TwinReadings
import StructGen.Proofs.Uncommented
import StructGen.Proofs.UpdatedEntries
import StructGen.Proofs.Walk
import StructGen.Registry
import StructGen.Schema.Anchor
import StructGen.Schema.Builder
import StructGen.Schema.Dialect
import StructGen.Schema.Document
import StructGen.Schema.Graph
import StructGen.Schema.Reference
import StructGen.Schema.Version
import StructGen.Settings
import StructGen.Source.Item
import StructGen.Source.Layout
import StructGen.Text.Blank
import StructGen.Text.Casing
import StructGen.Text.Cells
import StructGen.Text.CharacterName.From11FFF
import StructGen.Text.CharacterName.From1D00
import StructGen.Text.CharacterName.From1D54A
import StructGen.Text.CharacterName.From20
import StructGen.Text.CharacterName.From2460
import StructGen.Text.CharacterName.FromA700
import StructGen.Text.CharacterName.Lookup
import StructGen.Text.CharacterName.Run
import StructGen.Text.Digit
import StructGen.Text.Identifier
import StructGen.Text.Integer
import StructGen.Text.Letter
import StructGen.Text.Lines
import StructGen.Text.Printable
import StructGen.Text.Quoted
import StructGen.Text.Ranges
import StructGen.Text.Surrogates
import StructGen.Text.Utf8
import StructGen.Text.Wrap
import StructGen.Uri.Basic
import StructGen.Uri.Host
