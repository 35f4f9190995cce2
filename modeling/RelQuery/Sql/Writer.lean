import RelQuery.Sql.Statement

/-!
# Writers

The statement of a query as text for one database.  The writers take the
*generator* of the database and put its texts of identifiers and strings
together with their own.

Every writer has a counterpart that gives pieces: `Generator.select` writes what
`Sql.select` gives, and so on.  A writer never sees a piece, and a counterpart
never sees a generator.  A compiler runs the writers (`Sql.compile`).

* A test is written behind the text of its column.
* A group is the texts that its members leave, with its connective between them.
  Raw text beside others is put in parentheses, and so is a group in a group.
* A read inside a test is one level deeper.
-/

namespace RelQuery.Generator

variable (g : Generator)

/-! ## Tests -/

/-- The literal of a value for a field. -/
def literal (t : Target) (field : String) (value : Value) : Except Error String :=
  (value.cast g (t.typeOf field)).mapError (Error.cast field)

/-- A field under an alias. -/
def aliased (qualifier field : String) : String :=
  g.quoteIdentifier qualifier ++ "." ++ g.quoteIdentifier field

/-- A field in a condition, under an alias if the statement has one. -/
def column (t : Target) (qualifier : Option String) (field : String) : String :=
  match qualifier with
  | some a =>
    if t.isKnown field then g.aliased a field
    else if Text.isIdentifierPath field then g.quoteName field
    else field
  | none => if Text.isIdentifierPath field then g.quoteName field else field

/-- A test of a column against a list. -/
def listTest (t : Target) (column field : String) (op : Operator) (items : List Value) :
    Except Error String :=
  match op, items with
  | .between, [low, high] => do
    let low ← g.literal t field low
    let high ← g.literal t field high
    return column ++ " BETWEEN " ++ low ++ " AND " ++ high
  | .between, items => .error (.malformedBetween field items.length)
  | .eq, [] => .ok "1 = 0"
  | .ne, [] => .ok "1 = 1"
  | .eq, items => return column ++ " IN (" ++ (← g.literal t field (.list items)) ++ ")"
  | .ne, items => return column ++ " NOT IN (" ++ (← g.literal t field (.list items)) ++ ")"
  | op, _ => .error (.operatorOnList op field)

/-- A test of a column against a value that is no query. -/
def test (t : Target) (column field : String) (op : Operator) (value : Value) :
    Except Error String :=
  match op, value with
  | op, .list items => g.listTest t column field op items
  | .between, _ => .error (.malformedBetween field 1)
  | .eq, .null => .ok (column ++ " IS NULL")
  | .ne, .null => .ok (column ++ " IS NOT NULL")
  | op, value => do
    let literal ← g.literal t field value
    return column ++ " " ++ op.sql ++ " " ++ literal

/-! ## Groups -/

/-- The text of a member among others, which is raw or not. -/
def beside (part : String × Bool) : String := if part.2 then "(" ++ part.1 ++ ")" else part.1

/-- The text of a group of the texts that its members leave, if there are any. -/
def joinParts (c : Connective) : List (String × Bool) → Option String
  | [] => none
  | [part] => some part.1
  | parts => some (c.joiner.intercalate (parts.map beside))

/-- Raw text without outer blanks, if anything is left of it. -/
def rawText? (sql : String) : Option String :=
  let text := Text.trim sql
  if text = "" then none else some text

/-! ## Clauses -/

/-- A table under the alias of its model. -/
def source (model : Entity) : String := g.quoteName model.source ++ " AS " ++ g.quoteName model.name

/-- The clause of one join. -/
def join (kind : Option JoinKind) (model : Entity) (on : Option String) : String :=
  JoinKind.keyword kind ++ " " ++ g.source model ++ Clause.constraintText on

mutual

/-- The clauses of a join that stands at a depth: its own, and those of its joins. -/
def joined (ctx : Context) (depth : Nat) : Query → Except Error (List String)
  | ⟨_, model, _, _, inner, on, kind, _, _, _, _⟩ => do
    ctx.checkDepth depth
    match model with
    | none => .error .joinWithoutModel
    | some model =>
      let nested ← joins ctx (depth + 1) inner
      return g.join kind model on :: nested

/-- The clauses of joins that stand at a depth. -/
def joins (ctx : Context) (depth : Nat) : List Query → Except Error (List String)
  | [] => .ok []
  | q :: rest => do
    let first ← joined ctx depth q
    let others ← joins ctx depth rest
    return first ++ others

end

/-- A term of the sort order.  A declared field takes the alias of its model. -/
def orderTerm (t : Target) (term : OrderTerm) : String :=
  let column := if t.isKnown term.field then g.aliased t.model.name term.field else term.field
  column ++ " " ++ term.direction.keyword

/-- The sort order, if there is one. -/
def order (t : Target) (terms : List OrderTerm) : Option String :=
  if terms.isEmpty then none
  else some ("ORDER BY " ++ String.intercalate ", " (terms.map (g.orderTerm t)))

/-- A clause after the others, with a blank before it. -/
def after (clause : Option String) : String :=
  match clause with
  | none => ""
  | some text => " " ++ text

/-! ## Reads and conditions -/

mutual

/-- A read at a depth. -/
def select (ctx : Context) (depth : Nat) : Query → Lookups String
  | ⟨kind, model, fields, conditions, joins, _, _, limit, offset, order, _⟩ => do
    Lookups.ofExcept (ctx.checkDepth depth)
    let target ← ctx.target kind model
    let joined ← Lookups.ofExcept (g.joins ctx (depth + 1) joins)
    let filter ← whereOptional ⟨ctx, target, some target.model.name, depth⟩ conditions
    return "SELECT " ++ Clause.fieldsText fields ++ " FROM " ++ g.source target.model
      ++ String.join (joined.map fun clause => " " ++ clause)
      ++ after filter
      ++ after (g.order target order)
      ++ after (Clause.limitText limit offset)

/-- The clause of a condition that may be absent. -/
def whereOptional (scope : Scope) : Option Condition → Lookups (Option String)
  | none => return none
  | some c => do
    let body ← whereBody scope c
    return body.map fun text => "WHERE " ++ text

/-- The condition of a statement, if it says anything. -/
def whereBody (scope : Scope) : Condition → Lookups (Option String)
  | .raw sql => return rawText? sql
  | .leaf field op value => do
    return some (← leafText scope field field op value)
  | .group _ [.leaf field op value] => do
    return some (← leafText scope field field op value)
  | .group connective members => do
    return joinParts connective (← parts scope members)

/-- A condition inside a group, if it says anything. -/
def member (scope : Scope) : Condition → Lookups (Option String)
  | .raw sql => return rawText? sql
  | .leaf field op value => do
    return some (← leafText scope (g.column scope.target scope.qualifier field) field op value)
  | .group connective members => do
    return (joinParts connective (← parts scope members)).map fun text => "(" ++ text ++ ")"

/-- The members of a group that say something, each with whether it is raw. -/
def parts (scope : Scope) : List Condition → Lookups (List (String × Bool))
  | [] => return []
  | c :: cs => do
    let text ← member scope c
    let rest ← parts scope cs
    return (text.map fun text => (text, c.isRaw)).toList ++ rest

/-- A comparison of a column with a value. -/
def leafText (scope : Scope) (column field : String) (op : Operator) : Value → Lookups String
  | .query q =>
    match op with
    | .eq => do return column ++ " IN (" ++ (← select scope.context (scope.depth + 1) q) ++ ")"
    | .ne => do return column ++ " NOT IN (" ++ (← select scope.context (scope.depth + 1) q) ++ ")"
    | op => .fail (.operatorOnQuery op field)
  | value => .ofExcept (g.test scope.target column field op value)

end

/-! ## Statements by kind -/

/-- The literal that is written into a field. -/
def writtenLiteral (t : Target) (field : String) (value : Value) : Except Error String :=
  if value.isScalar then g.literal t field value
  else .error (.cast field (value.misfit (t.typeOf field)))

/-- The names and the literals of a payload, in order. -/
def written (t : Target) : Entries Value → Except Error (List (String × String))
  | [] => .ok []
  | (field, value) :: rest => do
    let literal ← g.writtenLiteral t field value
    let others ← written t rest
    return (g.quoteName field, literal) :: others

/-- The statement that inserts the payload. -/
def insert (ctx : Context) (q : Query) : Lookups String := do
  let t ← ctx.target q.kind q.model
  let fields ← Lookups.ofExcept (Sql.payload q.kind t q.payload)
  let written ← Lookups.ofExcept (g.written t fields)
  return "INSERT INTO " ++ g.quoteName t.model.source
    ++ " (" ++ String.intercalate ", " (written.map Prod.fst)
    ++ ") VALUES (" ++ String.intercalate ", " (written.map Prod.snd) ++ ")"

/-- The statement that writes the payload into rows. -/
def update (ctx : Context) (q : Query) : Lookups String := do
  let t ← ctx.target q.kind q.model
  let fields ← Lookups.ofExcept (Sql.payload q.kind t q.payload)
  let written ← Lookups.ofExcept (g.written t fields)
  let filter ← g.whereOptional ⟨ctx, t, none, 0⟩ (Sql.guardOf q t.model)
  return "UPDATE " ++ g.quoteName t.model.source ++ " SET "
    ++ String.intercalate ", " (written.map fun w => w.1 ++ " = " ++ w.2)
    ++ after filter

/-- The statement that removes rows. -/
def delete (ctx : Context) (q : Query) : Lookups String := do
  let t ← ctx.target q.kind q.model
  let filter ← g.whereOptional ⟨ctx, t, some t.model.name, 0⟩ (Sql.guardOf q t.model)
  return "DELETE FROM " ++ g.source t.model ++ after filter

/-- The statement of a query, without its semicolon. -/
def statement (ctx : Context) (q : Query) : Lookups String :=
  match q.kind with
  | .read => g.select ctx 0 q
  | .create => g.insert ctx q
  | .update => g.update ctx q
  | .delete => g.delete ctx q

end RelQuery.Generator

namespace RelQuery.Sql

/-- The text of the statement of a query. -/
def compile (g : Generator) (ctx : Context) (q : Query) : Lookups String := do
  return (← g.statement ctx q) ++ ";"

end RelQuery.Sql
