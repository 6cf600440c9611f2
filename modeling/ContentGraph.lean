import ContentGraph.CommandLine
import ContentGraph.Config
import ContentGraph.Content.Document
import ContentGraph.Content.MarkdownTransformer
import ContentGraph.Content.Record
import ContentGraph.Content.Source
import ContentGraph.Content.Transformer
import ContentGraph.Decimal.Double
import ContentGraph.Decimal.Reader
import ContentGraph.Decimal.Shortest
import ContentGraph.Digest.Blake3
import ContentGraph.Failure
import ContentGraph.Files.Glob
import ContentGraph.Files.IgnoreRules
import ContentGraph.Files.PathText
import ContentGraph.Files.Tree
import ContentGraph.Filter.Comparator
import ContentGraph.Filter.Manifest
import ContentGraph.Filter.Selection
import ContentGraph.Graph.Collection
import ContentGraph.Graph.Listing
import ContentGraph.Graph.Mutation
import ContentGraph.Graph.Output
import ContentGraph.Graph.Projection
import ContentGraph.Json.Object
import ContentGraph.Json.Path
import ContentGraph.Json.Printer
import ContentGraph.Json.Reader
import ContentGraph.Json.Value
import ContentGraph.Main
import ContentGraph.Markdown.Block
import ContentGraph.Markdown.Document
import ContentGraph.Markdown.Emphasis
import ContentGraph.Markdown.InlineReader
import ContentGraph.Markdown.Line
import ContentGraph.Markdown.NamedCharacter
import ContentGraph.Markdown.Page
import ContentGraph.Markdown.Tag
import ContentGraph.Markdown.Target
import ContentGraph.Proofs.Content.FileMetadata
import ContentGraph.Proofs.Content.FileStem
import ContentGraph.Proofs.Content.FrontMatter
import ContentGraph.Proofs.Content.RoundTrip
import ContentGraph.Proofs.Decimal.IntegerRounding
import ContentGraph.Proofs.Files.Confinement
import ContentGraph.Proofs.Files.PathText
import ContentGraph.Proofs.Files.Tree
import ContentGraph.Proofs.Filter.ComparatorLaws
import ContentGraph.Proofs.Filter.Composition
import ContentGraph.Proofs.Filter.IntegerEquality
import ContentGraph.Proofs.Filter.ManifestEntries
import ContentGraph.Proofs.Filter.Reading
import ContentGraph.Proofs.Filter.Selection
import ContentGraph.Proofs.Filter.Wildcard
import ContentGraph.Proofs.Graph.DeclaredLists
import ContentGraph.Proofs.Graph.FieldSort
import ContentGraph.Proofs.Graph.FilteredListing
import ContentGraph.Proofs.Graph.JoinedFilter
import ContentGraph.Proofs.Graph.MentionedFields
import ContentGraph.Proofs.Graph.NodeLookup
import ContentGraph.Proofs.Graph.PlainFilter
import ContentGraph.Proofs.Graph.PlainView
import ContentGraph.Proofs.Graph.ProjectedPaths
import ContentGraph.Proofs.Graph.Projection
import ContentGraph.Proofs.Graph.ReferenceName
import ContentGraph.Proofs.Graph.RelatedListing
import ContentGraph.Proofs.Graph.RelationCompleteness
import ContentGraph.Proofs.Graph.RelationFilter
import ContentGraph.Proofs.Graph.SortedListing
import ContentGraph.Proofs.Graph.UnknownFields
import ContentGraph.Proofs.Json.Defaults
import ContentGraph.Proofs.Json.Flatten
import ContentGraph.Proofs.Json.KeyPaths
import ContentGraph.Proofs.Json.Merge
import ContentGraph.Proofs.Json.MergeOrder
import ContentGraph.Proofs.Json.ObjectFields
import ContentGraph.Proofs.Json.Printer
import ContentGraph.Proofs.Markdown.ReadingTime
import ContentGraph.Proofs.Mutation.Atomicity
import ContentGraph.Proofs.Mutation.ConcurrentUpserts
import ContentGraph.Proofs.Mutation.Confinement
import ContentGraph.Proofs.Mutation.FileFrame
import ContentGraph.Proofs.Mutation.GraphNames
import ContentGraph.Proofs.Mutation.IndependentUpdates
import ContentGraph.Proofs.Mutation.LookupRefinement
import ContentGraph.Proofs.Mutation.Payload
import ContentGraph.Proofs.Mutation.RepeatedUpsert
import ContentGraph.Proofs.Mutation.Schedule
import ContentGraph.Proofs.Mutation.StoredSlug
import ContentGraph.Proofs.Mutation.Turn
import ContentGraph.Proofs.Mutation.UpdateFrame
import ContentGraph.Proofs.Mutation.UpdatePaths
import ContentGraph.Proofs.Mutation.UpsertTurn
import ContentGraph.Proofs.Mutation.WriteLog
import ContentGraph.Proofs.Query.CollectionName
import ContentGraph.Proofs.Query.Completion
import ContentGraph.Proofs.Query.ComputedField
import ContentGraph.Proofs.Query.FieldRun
import ContentGraph.Proofs.Query.SharedSelection
import ContentGraph.Proofs.Query.ShownField
import ContentGraph.Proofs.Query.ShownNode
import ContentGraph.Proofs.Regex.Matching
import ContentGraph.Proofs.Schema.DistinctNames
import ContentGraph.Proofs.Schema.InputTypes
import ContentGraph.Proofs.Schema.NestedTypes
import ContentGraph.Proofs.Schema.ReadableTypes
import ContentGraph.Proofs.Schema.TypeFields
import ContentGraph.Proofs.Schema.TypeText
import ContentGraph.Proofs.Shape.Absorption
import ContentGraph.Proofs.Shape.CompiledOverrides
import ContentGraph.Proofs.Shape.Coverage
import ContentGraph.Proofs.Shape.FieldLookup
import ContentGraph.Proofs.Shape.FieldNames
import ContentGraph.Proofs.Shape.FieldOrder
import ContentGraph.Proofs.Shape.Invariant
import ContentGraph.Proofs.Shape.Meaning
import ContentGraph.Proofs.Shape.Merge
import ContentGraph.Proofs.Shape.MergedTrees
import ContentGraph.Proofs.Shape.Naming
import ContentGraph.Proofs.Shape.Observation
import ContentGraph.Proofs.Shape.OrderIndependence
import ContentGraph.Proofs.Shape.OverriddenFields
import ContentGraph.Proofs.Shape.OverridePath
import ContentGraph.Proofs.Shape.PlainContent
import ContentGraph.Proofs.Shape.ReferenceField
import ContentGraph.Proofs.Shape.SettableFields
import ContentGraph.Proofs.Shape.Soundness
import ContentGraph.Proofs.Site.AddressedRecords
import ContentGraph.Proofs.Site.Build
import ContentGraph.Proofs.Site.Cache
import ContentGraph.Proofs.Site.Identity
import ContentGraph.Proofs.Site.LegalNames
import ContentGraph.Proofs.Site.Loading
import ContentGraph.Proofs.Site.SchemaNames
import ContentGraph.Proofs.Success
import ContentGraph.Proofs.Text.LegalNames
import ContentGraph.Proofs.Text.LowerCase
import ContentGraph.Proofs.Text.Runs
import ContentGraph.Proofs.Text.Slug
import ContentGraph.Proofs.Text.Split
import ContentGraph.Proofs.Text.Trim
import ContentGraph.Proofs.Yaml.Writer
import ContentGraph.Query.Document
import ContentGraph.Query.Execution
import ContentGraph.Query.Literal
import ContentGraph.Query.Reader
import ContentGraph.Query.Validation
import ContentGraph.Regex.CharClass
import ContentGraph.Regex.Pattern
import ContentGraph.Regex.Reader
import ContentGraph.Schema.Build
import ContentGraph.Schema.Definitions
import ContentGraph.Schema.TypeDraft
import ContentGraph.Schema.TypeRef
import ContentGraph.Schema.TypeTable
import ContentGraph.Shape.Kind
import ContentGraph.Shape.Override
import ContentGraph.Shape.Reduce
import ContentGraph.Shape.Resolver
import ContentGraph.Shape.Transform
import ContentGraph.Site
import ContentGraph.Text.Alphanumeric
import ContentGraph.Text.Blank
import ContentGraph.Text.CharRuns
import ContentGraph.Text.GeneralCategory
import ContentGraph.Text.LetterCase
import ContentGraph.Text.Naming
import ContentGraph.Text.Script
import ContentGraph.Text.Split
import ContentGraph.Text.Utf8
import ContentGraph.Toml.Reader
import ContentGraph.Yaml.Content
import ContentGraph.Yaml.Node
import ContentGraph.Yaml.Token
import ContentGraph.Yaml.Writer
