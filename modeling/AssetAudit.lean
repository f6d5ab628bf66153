import AssetAudit.Asset
import AssetAudit.Audit
import AssetAudit.AuditLog
import AssetAudit.Binding.Collect
import AssetAudit.Binding.Table
import AssetAudit.CommandLine.Argument
import AssetAudit.CommandLine.Command
import AssetAudit.CommandLine.Help
import AssetAudit.CommandLine.Option
import AssetAudit.CommandLine.Reading
import AssetAudit.CommandLine.Run
import AssetAudit.Compliance.Catalog
import AssetAudit.Compliance.ColorProfile
import AssetAudit.Compliance.DesignQuality
import AssetAudit.Compliance.Interlacing
import AssetAudit.Compliance.Issue
import AssetAudit.Compliance.Registry
import AssetAudit.Compliance.Rule
import AssetAudit.Compliance.Score
import AssetAudit.Config
import AssetAudit.Config.Load
import AssetAudit.Config.Parse
import AssetAudit.Decimal.Tenths
import AssetAudit.DynamicLookup
import AssetAudit.Environment.Basic
import AssetAudit.Environment.Load
import AssetAudit.Environment.Settings
import AssetAudit.Environment.SettingsFile
import AssetAudit.FileName
import AssetAudit.Files.Path
import AssetAudit.Files.TextFile
import AssetAudit.Files.Tree
import AssetAudit.FormatCall
import AssetAudit.Image.Bytes
import AssetAudit.Image.File
import AssetAudit.Image.Inflate
import AssetAudit.Image.Jpeg
import AssetAudit.Image.Metadata
import AssetAudit.Image.Png
import AssetAudit.Image.ProfileDescription
import AssetAudit.Json.Reader
import AssetAudit.Json.Value
import AssetAudit.Json.Writer
import AssetAudit.KeyedList
import AssetAudit.Literal.Found
import AssetAudit.Literal.Rule
import AssetAudit.Literal.Table
import AssetAudit.Log
import AssetAudit.Main
import AssetAudit.Pattern.Basic
import AssetAudit.Pattern.Search
import AssetAudit.Placeholder
import AssetAudit.Project.Inventory
import AssetAudit.Project.Manifest
import AssetAudit.Project.SourceTree
import AssetAudit.Project.Survey
import AssetAudit.Proofs.Binding.Arrays
import AssetAudit.Proofs.Binding.Collection
import AssetAudit.Proofs.Binding.Elements
import AssetAudit.Proofs.Binding.Exclusion
import AssetAudit.Proofs.Binding.Fold
import AssetAudit.Proofs.Binding.Merging
import AssetAudit.Proofs.Binding.Quotation
import AssetAudit.Proofs.CommandLine.Gates
import AssetAudit.Proofs.CommandLine.Precedence
import AssetAudit.Proofs.CommandLine.StartUp
import AssetAudit.Proofs.Compliance.Accounting
import AssetAudit.Proofs.Compliance.ImageSets
import AssetAudit.Proofs.Compliance.Order
import AssetAudit.Proofs.Compliance.Ownership
import AssetAudit.Proofs.Compliance.ProfileFaults
import AssetAudit.Proofs.Compliance.Registration
import AssetAudit.Proofs.Compliance.Scoring
import AssetAudit.Proofs.Compliance.Standard
import AssetAudit.Proofs.Config.Fields
import AssetAudit.Proofs.Config.Loading
import AssetAudit.Proofs.Config.Overriding
import AssetAudit.Proofs.Config.Widening
import AssetAudit.Proofs.Decimal.Range
import AssetAudit.Proofs.DynamicLookup.Numbers
import AssetAudit.Proofs.Environment.Applying
import AssetAudit.Proofs.Environment.Comments
import AssetAudit.Proofs.Environment.Keeping
import AssetAudit.Proofs.Environment.Loading
import AssetAudit.Proofs.Environment.Nearest
import AssetAudit.Proofs.Environment.Writing
import AssetAudit.Proofs.Files.Alike
import AssetAudit.Proofs.Files.Contents
import AssetAudit.Proofs.Files.Joining
import AssetAudit.Proofs.Files.Keeping
import AssetAudit.Proofs.Files.Listing
import AssetAudit.Proofs.Files.Overlong
import AssetAudit.Proofs.Files.Paths
import AssetAudit.Proofs.Files.Proper
import AssetAudit.Proofs.Files.Writing
import AssetAudit.Proofs.FirstAppearance
import AssetAudit.Proofs.FormatCall.Arguments
import AssetAudit.Proofs.FormatCall.Brackets
import AssetAudit.Proofs.FormatCall.Product
import AssetAudit.Proofs.FormatCall.Specifiers
import AssetAudit.Proofs.Json.LongNumber
import AssetAudit.Proofs.Json.Members
import AssetAudit.Proofs.KeyedList
import AssetAudit.Proofs.Literal.Delimiters
import AssetAudit.Proofs.Literal.Found
import AssetAudit.Proofs.Literal.Kinds
import AssetAudit.Proofs.Literal.Places
import AssetAudit.Proofs.Outcome
import AssetAudit.Proofs.Pattern.Analysis
import AssetAudit.Proofs.Pattern.Enclosure
import AssetAudit.Proofs.Pattern.Exclusion
import AssetAudit.Proofs.Pattern.Finding
import AssetAudit.Proofs.Pattern.Matching
import AssetAudit.Proofs.Pattern.Preference
import AssetAudit.Proofs.Pattern.Reading
import AssetAudit.Proofs.Pattern.Traversal
import AssetAudit.Proofs.Pattern.Weaving
import AssetAudit.Proofs.Placeholder.Grammar
import AssetAudit.Proofs.Placeholder.Parts
import AssetAudit.Proofs.Project.Addition
import AssetAudit.Proofs.Project.AssetReading
import AssetAudit.Proofs.Project.AssetSource
import AssetAudit.Proofs.Project.AuditOutcome
import AssetAudit.Proofs.Project.Auditing
import AssetAudit.Proofs.Project.Completion
import AssetAudit.Proofs.Project.Inventory
import AssetAudit.Proofs.Project.Manifest
import AssetAudit.Proofs.Project.Reading
import AssetAudit.Proofs.Project.Scan
import AssetAudit.Proofs.Project.SharedFiles
import AssetAudit.Proofs.Project.SurveyGrowth
import AssetAudit.Proofs.Project.Walk
import AssetAudit.Proofs.Project.WalkOrder
import AssetAudit.Proofs.Project.WithoutContent
import AssetAudit.Proofs.Report.Actions
import AssetAudit.Proofs.Report.Agreement
import AssetAudit.Proofs.Report.Size
import AssetAudit.Proofs.Resolution.Chains
import AssetAudit.Proofs.Resolution.Extension
import AssetAudit.Proofs.Resolution.Growth
import AssetAudit.Proofs.StableSort
import AssetAudit.Proofs.Text.CanonicalSet
import AssetAudit.Proofs.Text.Encoding
import AssetAudit.Proofs.Text.LineNumbers
import AssetAudit.Proofs.Text.Lines
import AssetAudit.Proofs.Text.Pieces
import AssetAudit.Proofs.Text.Trimming
import AssetAudit.Proofs.Text.WhiteSpace
import AssetAudit.Proofs.Usage.Bundles
import AssetAudit.Proofs.Usage.Growth
import AssetAudit.Proofs.Usage.ImageSets
import AssetAudit.Proofs.Usage.Independence
import AssetAudit.Proofs.Usage.Order
import AssetAudit.Proofs.Usage.Partition
import AssetAudit.Proofs.Usage.ScaleForms
import AssetAudit.Proofs.Usage.UsedNames
import AssetAudit.Proofs.Usage.Widening
import AssetAudit.Reference
import AssetAudit.Report.Basic
import AssetAudit.Report.Data
import AssetAudit.Report.Text
import AssetAudit.Resolution
import AssetAudit.Source
import AssetAudit.Text.Blank
import AssetAudit.Text.CaseRuns
import AssetAudit.Text.CasedRanges
import AssetAudit.Text.Casing
import AssetAudit.Text.DigitZeros
import AssetAudit.Text.HiddenRanges
import AssetAudit.Text.Integer
import AssetAudit.Text.Lines
import AssetAudit.Text.Quoted
import AssetAudit.Text.Ranges
import AssetAudit.Text.Search
import AssetAudit.Text.Sorted
import AssetAudit.Text.Utf8
import AssetAudit.Text.Word
import AssetAudit.Text.WordRanges
import AssetAudit.Usage
