import RelQuery.Sql.Piece
import RelQuery.Value.Coerce
import RelQuery.Value.Literal

/-!
# Literals of a statement

A value becomes a literal in two steps.  First it takes its shape: the shape of
its declared type, or for an untyped field its own, where a text that spells a
number counts as that number.  Then the shape is written: `NULL`, `1` and `0`
for truth values, numbers in digits, and strings as the database writes them.

A list is written as its elements with commas between, whatever lists they are
in turn.  A query and a number that is not finite have no literal.

A literal is given twice: `cast` is its text for one database, and `literal` its
pieces, which are the same for all.
-/

namespace RelQuery.Value

/-! ## Scalars -/

/-- The value with a text that spells a number taken as that number. -/
def introspect : Value → Value
  | string s => ((Literal.ofNumber? s).map Literal.toValue).getD (string s)
  | value => value

/-- The value in the shape in which a field of the type is written. -/
def shaped (value : Value) (tag : TypeTag) : Except CastError Value :=
  if tag = .untyped then .ok value.introspect else value.coerce tag

/-- The piece for a scalar in its shape. -/
def scalarPiece (value : Value) (tag : TypeTag) : Except CastError Piece :=
  match value with
  | null => .ok (.text "NULL")
  | bool b => .ok (.text (if b then "1" else "0"))
  | int n => .ok (.text (Text.integerText n.toInt))
  | float x => if x.isFinite then .ok (.text x.toText) else .error (value.misfit tag)
  | string s => .ok (.string s)
  | value => .error (value.misfit tag)

/-- The literal of a scalar in a field of a type. -/
def scalarLiteral (value : Value) (tag : TypeTag) : Except CastError Piece := do
  (← value.shaped tag).scalarPiece tag

/-! ## Lists -/

mutual

/-- The literal of a value in a field of a type. -/
def literal (tag : TypeTag) : Value → Except CastError (List Piece)
  | list items => (literals tag items).map (Piece.intercalate ", ")
  | query q => .error ((query q).misfit tag)
  | value => (value.scalarLiteral tag).map fun piece => [piece]

/-- The literals of several values. -/
def literals (tag : TypeTag) : List Value → Except CastError (List (List Piece))
  | [] => .ok []
  | item :: items => do
    let first ← literal tag item
    let rest ← literals tag items
    return first :: rest

end

/-! ## Texts -/

/-- The text of a scalar in its shape. -/
def scalarText (g : Generator) (value : Value) (tag : TypeTag) : Except CastError String :=
  match value with
  | null => .ok "NULL"
  | bool b => .ok (if b then "1" else "0")
  | int n => .ok (Text.integerText n.toInt)
  | float x => if x.isFinite then .ok x.toText else .error (value.misfit tag)
  | string s => .ok (g.stringLiteral s)
  | value => .error (value.misfit tag)

mutual

/-- The text of the literal of a value in a field of a type. -/
def cast (g : Generator) (value : Value) (tag : TypeTag) : Except CastError String :=
  match value with
  | list items => (casts g items tag).map (String.intercalate ", ")
  | query q => .error ((query q).misfit tag)
  | value => do (← value.shaped tag).scalarText g tag

/-- The texts of the literals of several values. -/
def casts (g : Generator) (values : List Value) (tag : TypeTag) : Except CastError (List String) :=
  match values with
  | [] => .ok []
  | item :: items => do
    let first ← item.cast g tag
    let rest ← casts g items tag
    return first :: rest

end

end RelQuery.Value
