import XPath.Bind
import XPath.Collation
import XPath.Collation.Search
import XPath.Context
import XPath.Error
import XPath.Eval
import XPath.Expr
import XPath.Function.Arguments
import XPath.Function.Call
import XPath.Function.Overloads
import XPath.Function.Signature
import XPath.Library.Aggregates
import XPath.Library.Constructors
import XPath.Library.Dates
import XPath.Library.DeepEqual
import XPath.Library.Diagnostics
import XPath.Library.Documents
import XPath.Library.Durations
import XPath.Library.Names
import XPath.Library.Nodes
import XPath.Library.Numbers
import XPath.Library.Patterns
import XPath.Library.Sequences
import XPath.Library.Strings
import XPath.Library.Table
import XPath.Library.Uris
import XPath.Library.Window
import XPath.Name
import XPath.NodeTest
import XPath.Number.Binary
import XPath.Number.Decimal
import XPath.Number.Double
import XPath.Number.Rounding
import XPath.Number.Shortest
import XPath.Number.Word
import XPath.Proofs.Aggregates.Extremes
import XPath.Proofs.Aggregates.Ordered
import XPath.Proofs.Aggregates.Scan
import XPath.Proofs.Binding
import XPath.Proofs.CollatedSearch
import XPath.Proofs.Commutativity
import XPath.Proofs.Comparison
import XPath.Proofs.DeepEqual
import XPath.Proofs.DistinctValues
import XPath.Proofs.Division
import XPath.Proofs.Equality
import XPath.Proofs.Erasure
import XPath.Proofs.Errors.Arguments
import XPath.Proofs.Errors.Evaluation
import XPath.Proofs.Errors.Library
import XPath.Proofs.Errors.NotStatic
import XPath.Proofs.Errors.Provider
import XPath.Proofs.Errors.Query
import XPath.Proofs.Errors.Values
import XPath.Proofs.GeneralComparison
import XPath.Proofs.Identifiers
import XPath.Proofs.LibraryCalls
import XPath.Proofs.Number.Exact
import XPath.Proofs.Number.FloatOrder
import XPath.Proofs.Number.Nearest
import XPath.Proofs.Number.Order
import XPath.Proofs.Number.Reading
import XPath.Proofs.Numerals
import XPath.Proofs.Path
import XPath.Proofs.Positions
import XPath.Proofs.Predicates
import XPath.Proofs.PrincipalKind
import XPath.Proofs.Quantifiers
import XPath.Proofs.Rebinding
import XPath.Proofs.Regex.Cutting
import XPath.Proofs.Regex.Matches
import XPath.Proofs.Regex.TemplateNumbers
import XPath.Proofs.Regex.Templates
import XPath.Proofs.Registration
import XPath.Proofs.Resolution
import XPath.Proofs.Result
import XPath.Proofs.RootDescendants
import XPath.Proofs.Rounding
import XPath.Proofs.SameName
import XPath.Proofs.Scope
import XPath.Proofs.SetOperations
import XPath.Proofs.Specificity
import XPath.Proofs.StepOrder
import XPath.Proofs.StringValue
import XPath.Proofs.Substitution
import XPath.Proofs.Text.Digits
import XPath.Proofs.Text.Escapes
import XPath.Proofs.Text.Utf8
import XPath.Proofs.Text.Words
import XPath.Proofs.Time.Adjustment
import XPath.Proofs.Time.Calendar
import XPath.Proofs.Time.Components
import XPath.Proofs.Time.Computed
import XPath.Proofs.Time.Counts
import XPath.Proofs.Time.Differences
import XPath.Proofs.Time.DurationGrammar
import XPath.Proofs.Time.DurationReading
import XPath.Proofs.Time.DurationRoundTrip
import XPath.Proofs.Time.DurationText
import XPath.Proofs.Time.Lexical
import XPath.Proofs.Time.RoundTrip
import XPath.Proofs.Time.Shifts
import XPath.Proofs.Tree.Ancestry
import XPath.Proofs.Tree.Axes
import XPath.Proofs.Tree.AxisOrder
import XPath.Proofs.Tree.DocumentOrder
import XPath.Proofs.Tree.NamespaceOrder
import XPath.Proofs.Tree.NamespaceScope
import XPath.Proofs.Tree.NodeSets
import XPath.Proofs.Tree.Order
import XPath.Proofs.Tree.Partition
import XPath.Proofs.Tree.Place
import XPath.Proofs.Tree.Preorder
import XPath.Proofs.Tree.Sorting
import XPath.Proofs.Types.Arguments
import XPath.Proofs.Types.Casting
import XPath.Proofs.Types.Library
import XPath.Proofs.WhiteSpace
import XPath.Query
import XPath.Regex.Bracket
import XPath.Regex.CharSet
import XPath.Regex.Engine
import XPath.Regex.Flags
import XPath.Regex.Match
import XPath.Regex.Pattern
import XPath.Regex.Provider
import XPath.Regex.Reader
import XPath.Regex.Replacement
import XPath.Sequence
import XPath.SequenceType
import XPath.Text.Base64
import XPath.Text.Hex
import XPath.Text.Percent
import XPath.Text.Space
import XPath.Time.Calendar
import XPath.Time.Duration
import XPath.Time.Temporal
import XPath.Tree.Axis
import XPath.Tree.Basic
import XPath.Tree.Node
import XPath.Tree.Order
import XPath.Unicode.Case
import XPath.Unicode.CaseTable
import XPath.Unicode.Category
import XPath.Unicode.CategoryTable
import XPath.Unicode.DecompositionTable
import XPath.Unicode.Normal
import XPath.Unicode.Property
import XPath.Unicode.PropertyTable
import XPath.Unicode.RunTable
import XPath.Unicode.Script
import XPath.Unicode.ScriptTable
import XPath.Uri.Basic
import XPath.Uri.Host
import XPath.Uri.Punycode
import XPath.Uri.Read
import XPath.Value.Arithmetic
import XPath.Value.Atomic
import XPath.Value.AtomicType
import XPath.Value.Cast
import XPath.Value.Compare
import XPath.Value.Lexical
import XPath.Value.Numeric
import XPath.Value.Rounding
