import RelQuery.Sql.Target
import RelQuery.Text.Integer

/-!
# Clauses

The parts of a statement that hold no condition: the selected fields, the table
with its alias, the joins, the sort order and the limits.

The joins of a query come one clause each, in order, and the joins of a join
directly after it.  Each level of joins is one deeper than the query it belongs
to.
-/

namespace RelQuery.Clause

/-! ## Fields and tables -/

/-- The selected fields as they are written, or all. -/
def fieldsText (names : List String) : String :=
  if names.isEmpty then "*" else String.intercalate ", " names

/-- The piece of the selected fields. -/
def fields (names : List String) : List Piece := [.text (fieldsText names)]

/-- A table under the alias of its model. -/
def source (model : Entity) : List Piece :=
  Piece.ofName model.source ++ .text " AS " :: Piece.ofName model.name

/-! ## Joins -/

/-- What a join is joined on, if its constraint is not blank. -/
def constraintText (constraint : Option String) : String :=
  match constraint with
  | none => ""
  | some text => if Text.trim text = "" then "" else " ON " ++ Text.trim text

/-- The piece of what a join is joined on. -/
def constraint (text : Option String) : List Piece :=
  match text with
  | none => []
  | some text => if Text.trim text = "" then [] else [.text (" ON " ++ Text.trim text)]

/-- The clause of one join. -/
def join (kind : Option JoinKind) (model : Entity) (on : Option String) : List Piece :=
  .text (JoinKind.keyword kind ++ " ") :: source model ++ constraint on

mutual

/-- The clauses of a join that stands at a depth: its own, and those of its joins. -/
def joined (ctx : Context) (depth : Nat) : Query → Except Error (List (List Piece))
  | ⟨_, model, _, _, inner, on, kind, _, _, _, _⟩ => do
    ctx.checkDepth depth
    match model with
    | none => .error .joinWithoutModel
    | some model =>
      let nested ← joins ctx (depth + 1) inner
      return join kind model on :: nested

/-- The clauses of joins that stand at a depth. -/
def joins (ctx : Context) (depth : Nat) : List Query → Except Error (List (List Piece))
  | [] => .ok []
  | q :: rest => do
    let first ← joined ctx depth q
    let others ← joins ctx depth rest
    return first ++ others

end

/-! ## Order and limits -/

/-- A term of the sort order.  A declared field takes the alias of its model. -/
def orderTerm (t : Target) (term : OrderTerm) : List Piece :=
  let column :=
    if t.isKnown term.field then Target.aliased t.model.name term.field else [.text term.field]
  column ++ [.text (" " ++ term.direction.keyword)]

/-- The sort order, if there is one. -/
def order (t : Target) (terms : List OrderTerm) : Option (List Piece) :=
  if terms.isEmpty then none
  else some (.text "ORDER BY " :: Piece.intercalate ", " (terms.map (orderTerm t)))

/-- A bound on the rows, if it is not zero. -/
def bound (keyword : String) (n : Option UInt32) : List String :=
  match n with
  | none => []
  | some n => if n = 0 then [] else [keyword ++ " " ++ Text.naturalText n.toNat]

/-- The bounds on the rows, if there are any. -/
def limitText (limit offset : Option UInt32) : Option String :=
  match bound "LIMIT" limit ++ bound "OFFSET" offset with
  | [] => none
  | bounds => some (String.intercalate " " bounds)

/-- The piece of the bounds on the rows. -/
def limit (limit offset : Option UInt32) : Option (List Piece) :=
  (limitText limit offset).map fun text => [.text text]

/-- A clause after the others, with a blank before it. -/
def after (clause : Option (List Piece)) : List Piece :=
  match clause with
  | none => []
  | some pieces => .text " " :: pieces

end RelQuery.Clause
