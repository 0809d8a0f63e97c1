import LiquidEval.Decimal.Bounds
import LiquidEval.Text.Blank
import LiquidEval.Text.Case
import LiquidEval.Text.Quoted
import LiquidEval.Decimal.Layout
import LiquidEval.Decimal.Reader
import LiquidEval.Table
import LiquidEval.Setting
import LiquidEval.Json.Reader
import LiquidEval.Json.Writer
import LiquidEval.Value.Document
import LiquidEval.Value.Equality
import LiquidEval.Sample.Objects
import LiquidEval.Condition.Parser
import LiquidEval.Expr.Printer
import LiquidEval.EvalError
import LiquidEval.Condition.Evaluation
import LiquidEval.Context.Keep
import LiquidEval.Registry
import LiquidEval.Sample.Filters
import LiquidEval.Sample.Predicates
import LiquidEval.Config
import LiquidEval.CommandLine
import LiquidEval.CommandLine.Flag
import LiquidEval.CommandLine.Part
import LiquidEval.CommandLine.Reader
import LiquidEval.Condition.Document
import LiquidEval.CommandLine.Run
import LiquidEval.Main
import LiquidEval.Proofs.Text.Classes
import LiquidEval.Proofs.Expr.Grammar
import LiquidEval.Proofs.Expr.Words
import LiquidEval.Proofs.Expr.Reading
import LiquidEval.Proofs.Condition.Chain
import LiquidEval.Proofs.Condition.Reading
import LiquidEval.Proofs.Condition.RoundTrip
import LiquidEval.Proofs.Context.RangeFailures
import LiquidEval.Proofs.Condition.Failures
import LiquidEval.Proofs.Filter.Signature
import LiquidEval.Proofs.Filter.Merge
import LiquidEval.Proofs.Registry.Reach
import LiquidEval.Proofs.Registry.Dispatch
import LiquidEval.Proofs.Filter.Extension
import LiquidEval.Proofs.Filter.Coercion
import LiquidEval.Proofs.Filter.Invocation
import LiquidEval.Proofs.Filter.Spelling
import LiquidEval.Proofs.Operator.History
import LiquidEval.Proofs.Naming.Letters
import LiquidEval.Proofs.Naming.Spelling
import LiquidEval.Proofs.Expr.Numeral
import LiquidEval.Proofs.Expr.Tree
import LiquidEval.Proofs.Expr.Unambiguous
import LiquidEval.Proofs.Expr.Printing
import LiquidEval.Proofs.Context.Scopes
import LiquidEval.Proofs.Context.Visibility
import LiquidEval.Proofs.Condition.Visibility
import LiquidEval.Proofs.Filter.Listing
import LiquidEval.Proofs.Decimal.Binary64
import LiquidEval.Proofs.Decimal.Rounding
import LiquidEval.Proofs.Value.Numbers
import LiquidEval.Proofs.Context.Undefined
import LiquidEval.Proofs.Registry.Functions
import LiquidEval.Proofs.Registry.Swap
import LiquidEval.Proofs.CommandLine.Texts
import LiquidEval.Proofs.Config.Precedence
import LiquidEval.Proofs.Decimal.LeadingZeros
import LiquidEval.Proofs.Value.EntryMembers
import LiquidEval.Proofs.Context.MapKeys
import LiquidEval.Proofs.Table.Matching
import LiquidEval.Proofs.Value.Equality
import LiquidEval.Proofs.Value.Identity
import LiquidEval.Proofs.Value.Members
import LiquidEval.Proofs.Context.MapEntries
import LiquidEval.Proofs.Decimal.Neighbours
import LiquidEval.Proofs.Value.RangeBounds
import LiquidEval.Proofs.Context.Ranges
import LiquidEval.Proofs.Filter.Conversion
import LiquidEval.Proofs.Filter.Fallback
import LiquidEval.Proofs.Value.Ordering
import LiquidEval.Proofs.Operator.Comparison
import LiquidEval.Proofs.Operator.Membership
import LiquidEval.Proofs.Filter.Arithmetic
import LiquidEval.Proofs.Json.Conversion
import LiquidEval.Proofs.Condition.Texts
import LiquidEval.Proofs.Expr.Lookahead
import LiquidEval.Proofs.Condition.Lookahead
import LiquidEval.Proofs.SyntaxError.Positions
import LiquidEval.Proofs.SyntaxError.Strings
import LiquidEval.Proofs.Filter.Truncation
import LiquidEval.Proofs.Naming.Underscores
