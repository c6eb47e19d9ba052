import OpenCypher.Text.Collapse
import OpenCypher.Value.Convert
import OpenCypher.Settings.Document
import OpenCypher.Labels
import OpenCypher.Arguments
import OpenCypher.Operator
import OpenCypher.Operand
import OpenCypher.SortOrder
import OpenCypher.Traversal
import OpenCypher.Subgraph
import OpenCypher.Selection
import OpenCypher.Query.Execution
import OpenCypher.Connection.Scheduled
import OpenCypher.Connection.Pool
import OpenCypher.Schema.Index
import OpenCypher.Schema.Constraint
import OpenCypher.Schema.Trigger
import OpenCypher.Sample.Draw
import OpenCypher.Proofs.Outcome
import OpenCypher.Proofs.Query.Growth
import OpenCypher.Proofs.Text.Squeeze
import OpenCypher.Proofs.Literal.Context
import OpenCypher.Proofs.Literal.Failure
import OpenCypher.Proofs.Literal.Offender
import OpenCypher.Proofs.Literal.Policy
import OpenCypher.Proofs.Query.Quoted
import OpenCypher.Proofs.Query.Delimited
import OpenCypher.Proofs.Text.Gap
import OpenCypher.Proofs.Text.Alike
import OpenCypher.Proofs.Text.Words
import OpenCypher.Proofs.Past
import OpenCypher.Proofs.Connection.Traced
import OpenCypher.Proofs.Connection.Account
import OpenCypher.Proofs.Connection.Clearing
import OpenCypher.Proofs.Query.Spacing
import OpenCypher.Proofs.Query.Addition
import OpenCypher.Proofs.Query.Faults
import OpenCypher.Proofs.Query.Alternation
import OpenCypher.Proofs.Query.Results
import OpenCypher.Proofs.Query.History
import OpenCypher.Proofs.Query.Continuation
import OpenCypher.Proofs.Query.Nesting
import OpenCypher.Proofs.Query.SubgraphCall
import OpenCypher.Proofs.Query.Dialects
import OpenCypher.Proofs.Literal.Reader
import OpenCypher.Proofs.Pattern.Reader
import OpenCypher.Proofs.Pattern.Objects
import OpenCypher.Proofs.Subgraph.Variables
import OpenCypher.Proofs.Subgraph.Places
import OpenCypher.Proofs.Subgraph.Reader
import OpenCypher.Proofs.Traversal.Reader
import OpenCypher.Proofs.Selection.Grammar
import OpenCypher.Proofs.Selection.Body
import OpenCypher.Proofs.Schema.Statement
import OpenCypher.Proofs.Schema.Listing
import OpenCypher.Proofs.Schema.OtherTypes
import OpenCypher.Proofs.Schema.Server
import OpenCypher.Proofs.Schema.Identity
import OpenCypher.Proofs.Schema.Reconciliation
import OpenCypher.Proofs.Schema.Issue
import OpenCypher.Proofs.Schema.Plan
import OpenCypher.Proofs.Schema.EventText
import OpenCypher.Proofs.Schema.TriggerText
import OpenCypher.Proofs.Decimal.Fields
import OpenCypher.Proofs.Calendar.Duration
import OpenCypher.Proofs.Calendar.Clock
import OpenCypher.Proofs.Calendar.Reader
import OpenCypher.Proofs.Calendar.LocalDateTime
import OpenCypher.Proofs.Calendar.Instant
import OpenCypher.Proofs.Sample.Skeleton
