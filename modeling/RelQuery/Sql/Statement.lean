import RelQuery.Sql.Select

/-!
# Statements

A query becomes one statement, by its kind.  The statement is a list of pieces, in
which no database has a part.

* A read selects.
* A create inserts its payload, and an update writes it.  Both need one, and
  only scalars can be written.
* An update and a delete are *guarded*: a condition that says something is
  their condition, and without one the primary key in the payload is.  A write
  that names its row never touches another.

An update has no alias, so its conditions do not mention one.
-/

namespace RelQuery.Sql

/-! ## Payloads -/

/-- The literal that is written into a field. -/
def writtenLiteral (t : Target) (field : String) (value : Value) : Except Error (List Piece) :=
  if value.isScalar then t.literal field value
  else .error (.cast field (value.misfit (t.typeOf field)))

/-- The literals of a payload, in order. -/
def writtenLiterals (t : Target) : Entries Value → Except Error (List (String × List Piece))
  | [] => .ok []
  | (field, value) :: rest => do
    let literal ← writtenLiteral t field value
    let literals ← writtenLiterals t rest
    return (field, literal) :: literals

/-- The payload of a statement, which must have one. -/
def payload (kind : Kind) (t : Target) : Option (Entries Value) → Except Error (Entries Value)
  | some (entry :: rest) => .ok (entry :: rest)
  | _ => .error (.emptyPayload kind t.model.name)

/-! ## Guards -/

/-- The test of the primary key that a payload names. -/
def keyTest? (model : Entity) (payload : Option (Entries Value)) : Option Condition :=
  (payload.bind (Entries.find? model.key)).map fun value => .leaf model.key .eq value

/-- The condition of a write: its own, or else the test of the primary key. -/
def guardOf (q : Query) (model : Entity) : Option Condition :=
  match q.conditions with
  | some c => if c.isBlank then keyTest? model q.payload else some c
  | none => keyTest? model q.payload

/-! ## Statements by kind -/

/-- The statement that inserts the payload. -/
def insert (ctx : Context) (q : Query) : Lookups (List Piece) := do
  let t ← ctx.target q.kind q.model
  let fields ← Lookups.ofExcept (payload q.kind t q.payload)
  let written ← Lookups.ofExcept (writtenLiterals t fields)
  return .text "INSERT INTO " :: Piece.ofName t.model.source
    ++ .text " (" :: Piece.intercalate ", " (written.map fun w => Piece.ofName w.1)
    ++ .text ") VALUES (" :: Piece.intercalate ", " (written.map Prod.snd) ++ [.text ")"]

/-- The statement that writes the payload into rows. -/
def update (ctx : Context) (q : Query) : Lookups (List Piece) := do
  let t ← ctx.target q.kind q.model
  let fields ← Lookups.ofExcept (payload q.kind t q.payload)
  let written ← Lookups.ofExcept (writtenLiterals t fields)
  let filter ← whereOptional ⟨ctx, t, none, 0⟩ (guardOf q t.model)
  return .text "UPDATE " :: Piece.ofName t.model.source ++ .text " SET "
    :: Piece.intercalate ", " (written.map fun w => Piece.ofName w.1 ++ .text " = " :: w.2)
    ++ Clause.after filter

/-- The statement that removes rows. -/
def delete (ctx : Context) (q : Query) : Lookups (List Piece) := do
  let t ← ctx.target q.kind q.model
  let filter ← whereOptional ⟨ctx, t, some t.model.name, 0⟩ (guardOf q t.model)
  return .text "DELETE FROM " :: Clause.source t.model ++ Clause.after filter

/-- The statement of a query, without its semicolon. -/
def statement (ctx : Context) (q : Query) : Lookups (List Piece) :=
  match q.kind with
  | .read => select ctx 0 q
  | .create => insert ctx q
  | .update => update ctx q
  | .delete => delete ctx q

end RelQuery.Sql
