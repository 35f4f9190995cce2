import RelQuery.Sql.Literal
import RelQuery.Sql.Target

/-!
# Tests of a condition

A test compares a column with a value that is no query.  What is written
follows from the operator and the shape of the value, and never from what the
value is.

* `BETWEEN` takes a list of two and nothing else.
* Equality with null is `IS NULL`, and with a list it is membership.
  Membership in the empty list is a test that never holds, and its negation one
  that always does.
* No other operator takes a list.
* Everything else is the column, the operator and the literal.
-/

namespace RelQuery.Target

/-- The literal of a value for a field. -/
def literal (t : Target) (field : String) (value : Value) : Except Error (List Piece) :=
  (value.literal (t.typeOf field)).mapError (Error.cast field)

/-- A membership test. -/
def membership (column : List Piece) (keyword : String) (members : List Piece) : List Piece :=
  column ++ .text (" " ++ keyword ++ " (") :: members ++ [.text ")"]

/-- A test of a column against a list. -/
def listTest (t : Target) (column : List Piece) (field : String) (op : Operator)
    (items : List Value) : Except Error (List Piece) :=
  match op, items with
  | .between, [low, high] => do
    let low ← t.literal field low
    let high ← t.literal field high
    return column ++ .text " BETWEEN " :: low ++ .text " AND " :: high
  | .between, items => .error (.malformedBetween field items.length)
  | .eq, [] => .ok [.text "1 = 0"]
  | .ne, [] => .ok [.text "1 = 1"]
  | .eq, items => return membership column "IN" (← t.literal field (.list items))
  | .ne, items => return membership column "NOT IN" (← t.literal field (.list items))
  | op, _ => .error (.operatorOnList op field)

/-- A test of a column against a value that is no query. -/
def test (t : Target) (column : List Piece) (field : String) (op : Operator) (value : Value) :
    Except Error (List Piece) :=
  match op, value with
  | op, .list items => t.listTest column field op items
  | .between, _ => .error (.malformedBetween field 1)
  | .eq, .null => .ok (column ++ [.text " IS NULL"])
  | .ne, .null => .ok (column ++ [.text " IS NOT NULL"])
  | op, value => do
    let literal ← t.literal field value
    return column ++ .text (" " ++ op.sql ++ " ") :: literal

end RelQuery.Target
