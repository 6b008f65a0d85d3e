import ListQuery.Main
import ListQuery.Files.Tree
import ListQuery.Session
import ListQuery.Wire.Response
import ListQuery.Proofs.Sql.Fragment
import ListQuery.Proofs.Sql.Vocabulary
import ListQuery.Proofs.Ordering
import ListQuery.Proofs.Predicate
import ListQuery.Proofs.Sql.Condition
import ListQuery.Proofs.Sql.Reading
import ListQuery.Proofs.Sql.Database
import ListQuery.Proofs.Sql.Satisfaction
import ListQuery.Proofs.Sql.Answer
import ListQuery.Proofs.Sql.After
import ListQuery.Proofs.Security
import ListQuery.Proofs.Json.Numeral
import ListQuery.Proofs.Text.Base64Url
import ListQuery.Proofs.Text.Decimal
import ListQuery.Proofs.Binary64.Numeral
import ListQuery.Proofs.Binary64.Nearest
import ListQuery.Proofs.Json.Quoted
import ListQuery.Proofs.Json.Printer
import ListQuery.Proofs.Cursor
import ListQuery.Proofs.Derivation
import ListQuery.Proofs.Row
import ListQuery.Proofs.Paging
import ListQuery.Proofs.Sql.Splitting
import ListQuery.Proofs.Walk
import ListQuery.Proofs.Continuation
import ListQuery.Proofs.Likeness
import ListQuery.Proofs.Command
import ListQuery.Proofs.Totality
import ListQuery.Proofs.Wire.Stability
import ListQuery.Proofs.Request
import ListQuery.Proofs.Shape
import ListQuery.Proofs.Verdict
import ListQuery.Proofs.Operators
import ListQuery.Proofs.Matching
import ListQuery.Proofs.Binding
import ListQuery.Proofs.Filtering
import ListQuery.Proofs.Integer
import ListQuery.Proofs.PageSize
import ListQuery.Proofs.Alias
import ListQuery.Proofs.DatabaseUrl
import ListQuery.Proofs.Registry
import ListQuery.Proofs.DefaultSort
import ListQuery.Proofs.Text.CamelCase
import ListQuery.Proofs.Columns
import ListQuery.Proofs.Scalar
import ListQuery.Proofs.Template
