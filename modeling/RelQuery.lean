import RelQuery.Calendar
import RelQuery.Main
import RelQuery.Query.Build
import RelQuery.Proofs.Binary64.Numeral
import RelQuery.Proofs.Outcome
import RelQuery.Proofs.Sql.Condition
import RelQuery.Proofs.Sql.Insert
import RelQuery.Proofs.Sql.Shape
import RelQuery.Proofs.Sql.Write
import RelQuery.Proofs.Query.Inner
import RelQuery.Proofs.Query.Group
import RelQuery.Proofs.Query.Order
import RelQuery.Proofs.Query.Parts
import RelQuery.Proofs.Query.Place
import RelQuery.Proofs.Schema.Binding
import RelQuery.Proofs.Value.Decode
import RelQuery.Proofs.Query.Meaning
import RelQuery.Proofs.Sql.Filter
import RelQuery.Proofs.Query.Nesting
import RelQuery.Proofs.Sql.Depth
import RelQuery.Proofs.Schema.Cache
import RelQuery.Proofs.Schema.Dialogue
import RelQuery.Proofs.Schema.Sharing
import RelQuery.Proofs.Sql.Generic
import RelQuery.Proofs.Sql.Steps
import RelQuery.Proofs.Session
import RelQuery.Proofs.Sql.Embedding
import RelQuery.Proofs.Sql.Subquery
import RelQuery.Proofs.Exchange
import RelQuery.Proofs.Sql.Alias
import RelQuery.Proofs.Schema.Reach
import RelQuery.Proofs.Value.Untyped
import RelQuery.Proofs.Value.Positional
import RelQuery.Proofs.Sql.Pruning
import RelQuery.Proofs.Query.Call
import RelQuery.Proofs.Sql.Joins
import RelQuery.Proofs.Binary64.Rounding
import RelQuery.Proofs.Binary64.Exact
import RelQuery.Proofs.Binary64.Shortest
import RelQuery.Proofs.Value.Column
import RelQuery.Proofs.Sql.Typing
import RelQuery.Proofs.Value.Integer
import RelQuery.Proofs.Value.Recast
