import ToolSchema.Table
import ToolSchema.Decimal.Shortest
import ToolSchema.Decimal.Limit
import ToolSchema.Text.Blank
import ToolSchema.Text.DecimalDigit
import ToolSchema.Text.WordTable
import ToolSchema.Text.CharacterNameTable
import ToolSchema.Text.Lines
import ToolSchema.Text.Split
import ToolSchema.Text.Case
import ToolSchema.Text.Identifier
import ToolSchema.Text.Quoted
import ToolSchema.Json.Basic
import ToolSchema.Json.Access
import ToolSchema.Json.Token
import ToolSchema.Json.Reader
import ToolSchema.Json.Writer
import ToolSchema.Json.Shown
import ToolSchema.Json.Encoding
import ToolSchema.TypeExpr.Shape
import ToolSchema.TypeExpr.Descent
import ToolSchema.Distinct
import ToolSchema.Descriptor.Basic
import ToolSchema.Descriptor.Document
import ToolSchema.Descriptor.Selection
import ToolSchema.Schema.Fragment
import ToolSchema.Schema.Error
import ToolSchema.Schema.Generation
import ToolSchema.Dialect
import ToolSchema.Schema.Session
import ToolSchema.Storage.Path
import ToolSchema.Storage.Tree
import ToolSchema.Log
import ToolSchema.Storage.JsonFile
import ToolSchema.Descriptor.Loading
import ToolSchema.Document
import ToolSchema.Settings
import ToolSchema.TokenEstimate
import ToolSchema.Console.EmojiTable
import ToolSchema.Console.Emoji
import ToolSchema.Console.Style
import ToolSchema.Console.CellWidth
import ToolSchema.Expression.Error
import ToolSchema.Expression.Bracket
import ToolSchema.Expression.Number
import ToolSchema.Expression.Quotation
import ToolSchema.Expression.Template
import ToolSchema.Expression.Token
import ToolSchema.Expression.Tree
import ToolSchema.Expression.Reader
import ToolSchema.Expression.Clause
import ToolSchema.Expression.Call
import ToolSchema.Expression.Parameters
import ToolSchema.Expression.Grammar
import ToolSchema.Expression.Literal
import ToolSchema.Console.Handler
import ToolSchema.Console.Markup
import ToolSchema.Console.Display
import ToolSchema.Command.Options
import ToolSchema.Command.Run
import ToolSchema.Main
import ToolSchema.Proofs.Expansion
import ToolSchema.Proofs.Trace
import ToolSchema.Proofs.Memoisation
import ToolSchema.Proofs.ReferenceGraph
import ToolSchema.Proofs.SessionOrder
import ToolSchema.Proofs.TypeGrammar
import ToolSchema.Proofs.DocumentEntries
import ToolSchema.Proofs.Growth
import ToolSchema.Proofs.NestedDeclarations
import ToolSchema.Proofs.DocumentReading
import ToolSchema.Proofs.AcceptedDocuments
import ToolSchema.Proofs.RequiredNames
import ToolSchema.Proofs.WrittenText
import ToolSchema.Proofs.DialectImage
import ToolSchema.Proofs.ObjectSchemas
import ToolSchema.Proofs.CommandRuns
import ToolSchema.Proofs.SoundTrees
import ToolSchema.Proofs.FileReading
import ToolSchema.Proofs.WrittenDescriptors
import ToolSchema.Proofs.RepeatedWriting
import ToolSchema.Proofs.RepeatedReading
import ToolSchema.Proofs.RepeatedRuns
import ToolSchema.Proofs.Provenance
import ToolSchema.Proofs.FragmentGrammar
import ToolSchema.Proofs.EncodedDocuments
import ToolSchema.Proofs.FailedExpansion
import ToolSchema.Proofs.RequestedDocuments
import ToolSchema.Proofs.MergedDescriptors
import ToolSchema.Proofs.MergedDocuments
import ToolSchema.Proofs.ReportedErrors
import ToolSchema.Proofs.ConvertedSchemas
import ToolSchema.Proofs.ReturningCalls
import ToolSchema.Proofs.CanonicalText
import ToolSchema.Proofs.CapitalText
import ToolSchema.Proofs.RepeatedConversion
import ToolSchema.Proofs.CacheOrder
import ToolSchema.Proofs.StableDocuments
import ToolSchema.Proofs.Selections
import ToolSchema.Proofs.CountedBrackets
import ToolSchema.Proofs.FormattedEntries
import ToolSchema.Proofs.RequestedOutput
import ToolSchema.Proofs.CaseLines
import ToolSchema.Proofs.WriteOutcomes
import ToolSchema.Proofs.CheckedSettings
import ToolSchema.Proofs.VerbatimText
import ToolSchema.Proofs.ReportedOutput
