import Pushdown.Config.Reader
import Pushdown.Schema.Registry
import Pushdown.Session.Basic
import Pushdown.Proofs.Condition.Combination
import Pushdown.Proofs.Store.Truth
import Pushdown.Proofs.Query.Verdict
import Pushdown.Proofs.Query.Agreement
import Pushdown.Proofs.Selector.Rendering
import Pushdown.Proofs.Store.PathText
import Pushdown.Proofs.Number.Order
import Pushdown.Proofs.Number.Shortest
import Pushdown.Proofs.Number.Numeral
import Pushdown.Proofs.Json.Text
import Pushdown.Proofs.Cache.Entries
import Pushdown.Proofs.Push.Parallel
import Pushdown.Proofs.Query.Parallel
import Pushdown.Proofs.Condition.Outline
import Pushdown.Proofs.Session.Run
import Pushdown.Proofs.Push.Operands
import Pushdown.Proofs.Query.Operands
import Pushdown.Proofs.Query.Execution
import Pushdown.Proofs.Query.Placeholders
import Pushdown.Proofs.Query.Flattening
import Pushdown.Proofs.Query.Indexes
import Pushdown.Proofs.Number.Remainder
import Pushdown.Proofs.Store.Arithmetic
import Pushdown.Proofs.Json.Order
import Pushdown.Proofs.Query.Residual
import Pushdown.Proofs.Selector.Tree
import Pushdown.Proofs.Condition.Places
import Pushdown.Proofs.Push.Relocated
import Pushdown.Proofs.Query.Layouts
import Pushdown.Proofs.Condition.Counting
import Pushdown.Proofs.Query.QuestionMarks
import Pushdown.Proofs.Schema.Versions
import Pushdown.Proofs.Condition.Lexeme
import Pushdown.Proofs.Condition.Scope
import Pushdown.Proofs.Condition.Leaves
import Pushdown.Proofs.Condition.Pieces
import Pushdown.Proofs.Condition.Scans
import Pushdown.Proofs.Push.Twins
import Pushdown.Proofs.Push.Numbering
import Pushdown.Proofs.Query.Twins
import Pushdown.Proofs.Query.NormalForm
import Pushdown.Proofs.Query.Hygiene
import Pushdown.Proofs.Query.Capture
import Pushdown.Proofs.Query.Names
import Pushdown.Proofs.Json.Reading
import Pushdown.Proofs.Log.Line
import Pushdown.Proofs.Schema.RoundTrip
import Pushdown.Proofs.Cache.Recency
import Pushdown.Proofs.Session.Hits
import Pushdown.Proofs.Push.Invariant
import Pushdown.Proofs.Session.Accounting
import Pushdown.Proofs.Store.Calculation
import Pushdown.Proofs.Store.Predicate
