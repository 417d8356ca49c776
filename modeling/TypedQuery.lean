import TypedQuery.Calendar
import TypedQuery.Error
import TypedQuery.Expr.Basic
import TypedQuery.Expr.Closure
import TypedQuery.Expr.Combinators
import TypedQuery.Expr.Same
import TypedQuery.Expr.Text
import TypedQuery.FileStore
import TypedQuery.Naming.Convention
import TypedQuery.Naming.LetterCase
import TypedQuery.Naming.Resolver
import TypedQuery.Naming.Storage
import TypedQuery.Numeral.Binary
import TypedQuery.Numeral.FixedPoint
import TypedQuery.Numeral.Layout
import TypedQuery.Numeral.Shortest
import TypedQuery.Query.Builder
import TypedQuery.Query.Draft
import TypedQuery.Query.Listing
import TypedQuery.Query.RowType
import TypedQuery.Sql.Aliases
import TypedQuery.Sql.Catalog
import TypedQuery.Sql.Compile
import TypedQuery.Sql.Parameters
import TypedQuery.Sql.Statement
import TypedQuery.Sql.Template
import TypedQuery.Text.CaseTable
import TypedQuery.Text.Casing
import TypedQuery.Text.Json
import TypedQuery.Toml.Document
import TypedQuery.Toml.Reader
import TypedQuery.Toml.Scalar
import TypedQuery.Toml.Text
import TypedQuery.Toml.Writer
import TypedQuery.Ty
import TypedQuery.Value
import TypedQuery.Proofs.Compilation
import TypedQuery.Proofs.Coupling
import TypedQuery.Proofs.LiteralIndependence
import TypedQuery.Proofs.Mentions
import TypedQuery.Proofs.Trace
import TypedQuery.Proofs.TraceGrammar
import TypedQuery.Proofs.AliasNames
import TypedQuery.Proofs.TraceAgreement
import TypedQuery.Proofs.PathSegments
import TypedQuery.Proofs.ParameterNames
import TypedQuery.Proofs.PathSeparation
import TypedQuery.Proofs.CatalogEntries
import TypedQuery.Proofs.TermTokens
import TypedQuery.Proofs.PlaceholderAgreement
import TypedQuery.Proofs.BuilderCalls
import TypedQuery.Proofs.NodeInvariant
import TypedQuery.Proofs.SealedNodes
import TypedQuery.Proofs.UnsupportedOnly
import TypedQuery.Proofs.ClauseScopes
import TypedQuery.Proofs.JoinChains
import TypedQuery.Proofs.TermLeaves
import TypedQuery.Proofs.CommandNodes
import TypedQuery.Proofs.TypedCalls
import TypedQuery.Proofs.RowTypes
import TypedQuery.Proofs.SourceAliases
import TypedQuery.Proofs.Qualifiers
import TypedQuery.Proofs.GroupKeys
import TypedQuery.Proofs.GroupElements
import TypedQuery.Proofs.SoleSources
import TypedQuery.Proofs.SourceNames
import TypedQuery.Proofs.NameIndependence
import TypedQuery.Proofs.Vocabulary
import TypedQuery.Proofs.CommandNesting
import TypedQuery.Proofs.DerivedTables
import TypedQuery.Proofs.CapturedValues
import TypedQuery.Proofs.JoinResults
import TypedQuery.Proofs.JoinKeys
import TypedQuery.Proofs.BooleanColumns
import TypedQuery.Proofs.SearchConditions
import TypedQuery.Proofs.PredicateConjunctions
import TypedQuery.Proofs.CompiledForms
import TypedQuery.Proofs.PartOrigins
import TypedQuery.Proofs.GatheredClauses
import TypedQuery.Proofs.NullTests
import TypedQuery.Proofs.TemplateFilling
import TypedQuery.Proofs.DateDifferences
import TypedQuery.Proofs.TermOutlines
import TypedQuery.Proofs.OperandReading
import TypedQuery.Proofs.TemplateSlots
import TypedQuery.Proofs.TermLooseness
import TypedQuery.Proofs.ArgumentReadings
import TypedQuery.Proofs.ParameterLaws
import TypedQuery.Proofs.WrittenStrings
import TypedQuery.Proofs.WrittenDocuments
import TypedQuery.Proofs.SavedConventions
import TypedQuery.Proofs.SnakeCase
