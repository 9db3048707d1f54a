import RowGuard.Batch.Basic
import RowGuard.Batch.Execution
import RowGuard.Batch.Meaning
import RowGuard.Batch.Render
import RowGuard.Batch.Update
import RowGuard.Calendar
import RowGuard.Condition.Basic
import RowGuard.Condition.Compile
import RowGuard.Condition.Goal
import RowGuard.Condition.Meaning
import RowGuard.Condition.Render
import RowGuard.Config
import RowGuard.Data
import RowGuard.Data.Json
import RowGuard.Database.Basic
import RowGuard.Database.Contents
import RowGuard.Database.Order
import RowGuard.Database.Reading
import RowGuard.Database.Schema
import RowGuard.Database.Value
import RowGuard.Evaluator.Basic
import RowGuard.Evaluator.Local
import RowGuard.Explain
import RowGuard.Facts.Book
import RowGuard.Facts.Query
import RowGuard.Facts.Rows
import RowGuard.Facts.Select
import RowGuard.Facts.Signature
import RowGuard.Fault
import RowGuard.Fragment.Basic
import RowGuard.Fragment.Meaning
import RowGuard.Globals
import RowGuard.Listing.Basic
import RowGuard.Listing.Execution
import RowGuard.Listing.Expectation
import RowGuard.Listing.Plan
import RowGuard.Mutation
import RowGuard.Number.Binary64
import RowGuard.Policy.Basic
import RowGuard.Policy.Coverage
import RowGuard.Policy.Derivation
import RowGuard.Policy.Naming
import RowGuard.Policy.Reading
import RowGuard.Policy.Rule
import RowGuard.Policy.Validation
import RowGuard.Proofs.Access.Basic
import RowGuard.Proofs.Access.Compile
import RowGuard.Proofs.Access.Coverage
import RowGuard.Proofs.Access.Exactness
import RowGuard.Proofs.Access.Monotone
import RowGuard.Proofs.Access.Nesting
import RowGuard.Proofs.Access.Rearrangement
import RowGuard.Proofs.Access.Selection
import RowGuard.Proofs.Access.Soundness
import RowGuard.Proofs.Access.Strangers
import RowGuard.Proofs.Access.Supply
import RowGuard.Proofs.Access.Transfer
import RowGuard.Proofs.Access.Validated
import RowGuard.Proofs.Batch.Agreement
import RowGuard.Proofs.Batch.AllOrNothing
import RowGuard.Proofs.Batch.Compilation
import RowGuard.Proofs.Batch.Counting
import RowGuard.Proofs.Batch.Effect
import RowGuard.Proofs.Batch.Interleaving
import RowGuard.Proofs.Batch.Outcome
import RowGuard.Proofs.Batch.Plan
import RowGuard.Proofs.Batch.Planning
import RowGuard.Proofs.Batch.Reach
import RowGuard.Proofs.Batch.Validation
import RowGuard.Proofs.Condition.Inlining
import RowGuard.Proofs.Condition.Likeness
import RowGuard.Proofs.Condition.Matching
import RowGuard.Proofs.Condition.Meaning
import RowGuard.Proofs.Condition.Quotation
import RowGuard.Proofs.Condition.Typed
import RowGuard.Proofs.Condition.Unbroken
import RowGuard.Proofs.Condition.Writing
import RowGuard.Proofs.Database.Change
import RowGuard.Proofs.Database.Conformity
import RowGuard.Proofs.Database.Deletion
import RowGuard.Proofs.Database.Equality
import RowGuard.Proofs.Database.Order
import RowGuard.Proofs.Evaluator.Answers
import RowGuard.Proofs.Evaluator.Checks
import RowGuard.Proofs.Evaluator.Explanation
import RowGuard.Proofs.Evaluator.GlobalRoles
import RowGuard.Proofs.Evaluator.Inlining
import RowGuard.Proofs.Evaluator.Local
import RowGuard.Proofs.Evaluator.Queries
import RowGuard.Proofs.Evaluator.Quotation
import RowGuard.Proofs.Evaluator.Retrying
import RowGuard.Proofs.Evaluator.RowSets
import RowGuard.Proofs.Evaluator.Supplying
import RowGuard.Proofs.Evaluator.Testing
import RowGuard.Proofs.Evaluator.Verdict
import RowGuard.Proofs.Facts
import RowGuard.Proofs.Fragment.Placing
import RowGuard.Proofs.Globals
import RowGuard.Proofs.Guarded.Basic
import RowGuard.Proofs.Guarded.Detached
import RowGuard.Proofs.Guarded.Embedding
import RowGuard.Proofs.Guarded.Lent
import RowGuard.Proofs.Guarded.Served
import RowGuard.Proofs.Isolation
import RowGuard.Proofs.Lasting
import RowGuard.Proofs.Lending
import RowGuard.Proofs.Listing.Agreement
import RowGuard.Proofs.Listing.Fragments
import RowGuard.Proofs.Listing.Likeness
import RowGuard.Proofs.Listing.Plan
import RowGuard.Proofs.Listing.RowSets
import RowGuard.Proofs.Mutation.CheckThenAct
import RowGuard.Proofs.Mutation.Completion
import RowGuard.Proofs.Number.Rounding
import RowGuard.Proofs.Outcome
import RowGuard.Proofs.Policy.Derivation
import RowGuard.Proofs.Policy.LeastClosure
import RowGuard.Proofs.Policy.Reporting
import RowGuard.Proofs.Records.Administrators
import RowGuard.Proofs.Records.Attempts
import RowGuard.Proofs.Records.Confinement
import RowGuard.Proofs.Records.Contents
import RowGuard.Proofs.Records.Deeds
import RowGuard.Proofs.Records.Effects
import RowGuard.Proofs.Records.Facts
import RowGuard.Proofs.Records.Grants
import RowGuard.Proofs.Records.Meaning
import RowGuard.Proofs.Records.OwnListing
import RowGuard.Proofs.Records.Policy
import RowGuard.Proofs.Records.RoleBatches
import RowGuard.Proofs.Records.RoleEdits
import RowGuard.Proofs.Records.Service
import RowGuard.Proofs.Records.Statements
import RowGuard.Proofs.Records.Storage
import RowGuard.Proofs.Records.Tenancy
import RowGuard.Proofs.Records.UserConditions
import RowGuard.Proofs.Records.UserServices
import RowGuard.Proofs.Records.Written
import RowGuard.Proofs.References
import RowGuard.Proofs.Registry
import RowGuard.Proofs.Session.Durability
import RowGuard.Proofs.Session.Finding
import RowGuard.Proofs.Session.Inside
import RowGuard.Proofs.Session.Keeps
import RowGuard.Proofs.Session.Orderly
import RowGuard.Proofs.Session.Outermost
import RowGuard.Proofs.Session.Run
import RowGuard.Proofs.Session.Savepoint
import RowGuard.Proofs.Session.Scope
import RowGuard.Proofs.Session.Transaction
import RowGuard.Proofs.Session.Writing
import RowGuard.Proofs.Sql.Quotation
import RowGuard.Proofs.Sql.Template
import RowGuard.Proofs.Text.Numeral
import RowGuard.Proofs.Unwinding
import RowGuard.Records.Context
import RowGuard.Records.Documents
import RowGuard.Records.Organizations
import RowGuard.Records.Policy
import RowGuard.Records.Sample
import RowGuard.Records.Schema
import RowGuard.Records.Settings
import RowGuard.Records.Storage
import RowGuard.Records.Users
import RowGuard.Registry
import RowGuard.Scalar
import RowGuard.Session.Command
import RowGuard.Session.Link
import RowGuard.Session.Program
import RowGuard.Session.Scope
import RowGuard.Session.Script
import RowGuard.Session.Source
import RowGuard.Session.Statement
import RowGuard.Sql.Dialect
import RowGuard.Sql.Literal
import RowGuard.Sql.Name
import RowGuard.Sql.Piece
import RowGuard.Sql.Statement
import RowGuard.System
import RowGuard.Text.Blank
import RowGuard.Text.Digit
import RowGuard.Text.Numeral
import RowGuard.Text.Percent
import RowGuard.Text.Printable
import RowGuard.Text.Quoted
import RowGuard.Text.Sorted
import RowGuard.Text.Utf8
import RowGuard.Text.WordChar
import RowGuard.Web.Address
import RowGuard.Web.Handlers
import RowGuard.Web.Message
import RowGuard.Web.Service
import RowGuard.Yaml.Document
import RowGuard.Yaml.Node
import RowGuard.Yaml.Place
import RowGuard.Yaml.Scalar
import RowGuard.Yaml.Tag
import RowGuard.Yaml.Text
import RowGuard.Yaml.Token
