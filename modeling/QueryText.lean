import QueryText.CommandLine.Workspace
import QueryText.Main
import QueryText.Proofs.Naming.Fresh
import QueryText.Proofs.Naming.Session
import QueryText.Proofs.Naming.Invariant
import QueryText.Proofs.Naming.Numbering
import QueryText.Proofs.Naming.FirstFree
import QueryText.Proofs.Rendering.Failure
import QueryText.Proofs.Lexical.Quoted
import QueryText.Proofs.Lexical.Value
import QueryText.Proofs.Lexical.Parts
import QueryText.Proofs.Rendering.Variation
import QueryText.Proofs.Rendering.Simulation
import QueryText.Proofs.Lexical.Injection
import QueryText.Proofs.Lexical.Dialects
import QueryText.Proofs.Scoping.Weave
import QueryText.Proofs.Scoping.Entries
import QueryText.Proofs.Scoping.Reference
import QueryText.Proofs.Scoping.RawTable
import QueryText.Proofs.Scoping.Tables
import QueryText.Proofs.Rendering.Locality
import QueryText.Proofs.Rendering.Labels
import QueryText.Proofs.Rendering.Hint
import QueryText.Proofs.Rendering.Wrapper
import QueryText.Proofs.Lexical.Balance
import QueryText.Proofs.Rendering.Acceptance
import QueryText.Proofs.Rendering.Clauses
import QueryText.Proofs.Condition.Grammar
import QueryText.Proofs.Condition.Structure
import QueryText.Proofs.Condition.Ranges
import QueryText.Proofs.Condition.Null
import QueryText.Proofs.Text.Runs
import QueryText.Proofs.Text.Numeral
import QueryText.Proofs.Number.Decimal
import QueryText.Proofs.Quoting.Coercion
import QueryText.Proofs.Quoting.Token
import QueryText.Proofs.Calendar.ReadBack
import QueryText.Proofs.Calendar.SqlText
import QueryText.Proofs.Json.Scalar
import QueryText.Proofs.Json.ReadBack
import QueryText.Proofs.Document.Shape
import QueryText.Proofs.Document.Values
import QueryText.Proofs.Document.Trees
import QueryText.Proofs.Document.RoundTrip
