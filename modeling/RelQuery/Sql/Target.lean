import RelQuery.Query.Basic
import RelQuery.Schema.Lookups
import RelQuery.Sql.Piece
import RelQuery.Text.Word

/-!
# Targets

A statement is compiled against its *target*: the model with the schema of that
model.  The target decides three things about a field.

* A field is *known* when the schema declares it under the name as written.
* Its type is the declared one, and `Model.field` with the target's own name
  counts as `field`.
* As a column of a condition, a known field takes the alias of the target, any
  other identifier path is quoted, and everything else is an expression that
  stays as it is.
-/

namespace RelQuery

/-- What compiling depends on beside the query. -/
structure Context where
  /-- The schema of a model. -/
  schemas : String → Except Error Schema
  /-- How deeply queries may be nested. -/
  maxDepth : Nat

/-- A model and its schema. -/
structure Target where
  /-- The model. -/
  model : Entity
  /-- The declared fields. -/
  schema : Schema

namespace Context

/-- The target of a query, which must have a model. -/
def target (ctx : Context) (kind : Kind) : Option Entity → Lookups Target
  | none => .fail (.noModel kind)
  | some model => do
    let schema ← Lookups.schemaOf ctx.schemas model.name
    return ⟨model, schema⟩

/-- The limit on nesting. -/
def checkDepth (ctx : Context) (depth : Nat) : Except Error Unit :=
  if ctx.maxDepth < depth then .error (.depthExceeded ctx.maxDepth) else .ok ()

end Context

namespace Target

/-! ## Fields -/

/-- The field without the name of the target and a dot before it. -/
def localName (t : Target) (field : String) : String :=
  match Text.after? (t.model.name.toList ++ ['.']) field.toList with
  | some rest => String.ofList rest
  | none => field

/-- Whether the schema declares a field. -/
def isKnown (t : Target) (field : String) : Bool := t.schema.contains field

/-- The type of a field. -/
def typeOf (t : Target) (field : String) : TypeTag := t.schema.typeOf (t.localName field)

/-! ## Columns -/

/-- A field under an alias. -/
def aliased (qualifier field : String) : List Piece :=
  [.identifier qualifier, .text ".", .identifier field]

/-- A field in a condition, under an alias if the statement has one. -/
def column (t : Target) (qualifier : Option String) (field : String) : List Piece :=
  match qualifier with
  | some a =>
    if t.isKnown field then aliased a field
    else if Text.isIdentifierPath field then Piece.ofName field
    else [.text field]
  | none => if Text.isIdentifierPath field then Piece.ofName field else [.text field]

end Target

end RelQuery
