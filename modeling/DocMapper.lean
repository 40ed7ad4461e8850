import DocMapper.Database
import DocMapper.Error
import DocMapper.Filter
import DocMapper.Index
import DocMapper.Keyword
import DocMapper.Lowering
import DocMapper.Model.Basic
import DocMapper.Model.Batch
import DocMapper.Model.Summary
import DocMapper.Number.Decimal128
import DocMapper.Number.DecimalText
import DocMapper.Number.Double
import DocMapper.Pattern.Basic
import DocMapper.Pattern.Bracket
import DocMapper.Pattern.CharSet
import DocMapper.Pattern.Escape
import DocMapper.Pattern.Footprint
import DocMapper.Pattern.Outline
import DocMapper.Pattern.Parser
import DocMapper.Pipeline.Group
import DocMapper.Pipeline.Join
import DocMapper.Pipeline.Stage
import DocMapper.Pipeline.Summary
import DocMapper.Proofs.Actions
import DocMapper.Proofs.Checks
import DocMapper.Proofs.Conditions
import DocMapper.Proofs.Conformance
import DocMapper.Proofs.ConformingStore
import DocMapper.Proofs.Conjunction
import DocMapper.Proofs.Document
import DocMapper.Proofs.Drafts
import DocMapper.Proofs.Equality
import DocMapper.Proofs.EqualityFilters
import DocMapper.Proofs.Identifiers
import DocMapper.Proofs.Matching
import DocMapper.Proofs.ModelWrites
import DocMapper.Proofs.Names
import DocMapper.Proofs.PermittedUpdates
import DocMapper.Proofs.Schemas
import DocMapper.Proofs.Stores
import DocMapper.Proofs.Subjects
import DocMapper.Proofs.Types
import DocMapper.Proofs.Updates
import DocMapper.Query
import DocMapper.ReadOptions
import DocMapper.Reconciliation.Basic
import DocMapper.Reconciliation.Execution
import DocMapper.Schema.Basic
import DocMapper.Schema.Conformance
import DocMapper.Schema.FieldType
import DocMapper.Settings.Basic
import DocMapper.Settings.Connection
import DocMapper.Settings.Json
import DocMapper.Store.Basic
import DocMapper.Store.Call
import DocMapper.Text
import DocMapper.Unicode.Age
import DocMapper.Unicode.BooleanProperty
import DocMapper.Unicode.CaseFolding
import DocMapper.Unicode.CharKind
import DocMapper.Unicode.CodeSet
import DocMapper.Unicode.GeneralCategory
import DocMapper.Unicode.Property
import DocMapper.Unicode.Script
import DocMapper.Unicode.Segmentation
import DocMapper.Unicode.Utf8
import DocMapper.Update
import DocMapper.Value.Basic
import DocMapper.Value.Display
import DocMapper.Value.Equality
import DocMapper.Value.Identity
import DocMapper.Value.Instant
import DocMapper.Value.ObjectId
import DocMapper.Value.Order
import DocMapper.Value.Path
import DocMapper.Proofs.StoreInvariant
import DocMapper.Proofs.Numbers
import DocMapper.Proofs.Identities
import DocMapper.Proofs.Candidates
import DocMapper.Proofs.ExactTypes
import DocMapper.Proofs.Plans
import DocMapper.Proofs.FoundKeys
import DocMapper.Proofs.BatchUpserts
import DocMapper.Proofs.ModelUpserts
import DocMapper.Proofs.Queries
import DocMapper.Proofs.Failures
import DocMapper.Proofs.Blame
import DocMapper.Proofs.ClientErrors
import DocMapper.Proofs.Amendments
import DocMapper.Proofs.BatchRuns
import DocMapper.Proofs.BatchSizes
import DocMapper.Proofs.ModelBatches
import DocMapper.Proofs.Paths
import DocMapper.Proofs.Projections
import DocMapper.Proofs.Selection
import DocMapper.Proofs.SelectedUpdates
import DocMapper.Proofs.Suffixes
import DocMapper.Proofs.Fetching
import DocMapper.Proofs.Joins
import DocMapper.Proofs.Lowered
import DocMapper.Proofs.Confinement
import DocMapper.Proofs.Harmless
import DocMapper.Proofs.ServerCode
import DocMapper.Proofs.Seeds
import DocMapper.Proofs.SuppliedFields
import DocMapper.Proofs.StableCreation
import DocMapper.Proofs.Deletions
import DocMapper.Proofs.Targets
import DocMapper.Proofs.Totals
import DocMapper.Proofs.IdentifierPlans
import DocMapper.Proofs.BatchSplits
import DocMapper.Proofs.DroppedIndexes
import DocMapper.Proofs.GuardedReplacements
import DocMapper.Proofs.JoinPages
import DocMapper.Proofs.Rounding
import DocMapper.Proofs.DecimalTexts
import DocMapper.Proofs.IntegerComparisons
import DocMapper.Proofs.NumericKeys
import DocMapper.Proofs.Sums
import DocMapper.Proofs.Increments
import DocMapper.Proofs.SortKeys
import DocMapper.Proofs.Extremes
import DocMapper.Proofs.Groups
import DocMapper.Proofs.Counts
import DocMapper.Proofs.CombinedCounts
import DocMapper.Proofs.SortedPages
import DocMapper.Proofs.Replacements
import DocMapper.Proofs.SingleKeys
import DocMapper.Proofs.OperatorLaws
import DocMapper.Proofs.Searches
import DocMapper.Proofs.Affixes
import DocMapper.Proofs.RepeatedUpserts
import DocMapper.Proofs.Typing
import DocMapper.Proofs.NormalForms
import DocMapper.Proofs.AcceptedCalls
import DocMapper.Proofs.Operands
import DocMapper.Proofs.SuffixPolicies
import DocMapper.Proofs.UnwoundJoins
import DocMapper.Proofs.DistinctValues
import DocMapper.Proofs.Preorder
import DocMapper.Proofs.DottedPaths
import DocMapper.Proofs.KeywordTexts
