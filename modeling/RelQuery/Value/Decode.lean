import RelQuery.Json.Basic
import RelQuery.Schema.Basic
import RelQuery.Value.Coerce
import RelQuery.Value.Literal

/-!
# Decoding

Values that come back from a database, in the shape their fields declare.

* `decode` takes a JSON value from a row.  An array or object counts as its
  text.
* `decodeLiteral` takes the text of a literal of a statement.
* `decodeRow` decodes the columns of a row in order, each by the type its schema
  declares, and stops at the first that does not fit.

`toJson` is the way out: a value as JSON, where a number that is not finite
becomes null and a query its mark in messages.
-/

namespace RelQuery

/-- A row as a database hands it over. -/
abbrev RawRow := Entries Json

/-- A row of decoded values. -/
abbrev Row := Entries Value

namespace Value

/-! ## Values -/

/-- The value of a JSON column, before its type is known. -/
def ofColumn : Json → Value
  | .null => null
  | .bool b => bool b
  | .number n => n.toInt64?.elim (float n.toBinary64) int
  | .string s => string s
  | .array items => string (Json.array items).compact
  | .object entries => string (Json.object entries).compact

/-- The value of a JSON column of a type. -/
def decode (raw : Json) (tag : TypeTag) : Except CastError Value := (ofColumn raw).coerce tag

/-- The value of a literal in a field of a type. -/
def decodeLiteral (text : String) (tag : TypeTag) : Except CastError Value :=
  match Literal.ofText? text with
  | some l => l.toValue.coerce tag
  | none => .error ⟨tag, text⟩

/-! ## Rows -/

/-- The columns of a row by the types of a schema. -/
def decodeRow (schema : Schema) : RawRow → Except Error Row
  | [] => .ok []
  | (column, raw) :: rest => do
    let value ← (decode raw (schema.typeOf column)).mapError (Error.cast column)
    let row ← decodeRow schema rest
    return (column, value) :: row

/-- The rows of a result by the types of a schema. -/
def decodeRows (schema : Schema) : List RawRow → Except Error (List Row)
  | [] => .ok []
  | raw :: rest => do
    let row ← decodeRow schema raw
    let rows ← decodeRows schema rest
    return row :: rows

/-! ## Values as JSON -/

mutual

/-- A value as JSON. -/
def toJson : Value → Json
  | null => .null
  | bool b => .bool b
  | int n => .number (.ofInt64 n)
  | float x => if h : x.isFinite = true then .number (.decimal x h) else .null
  | string s => .string s
  | list items => .array (toJsonAll items)
  | query q => .string (query q).display

/-- Several values as JSON. -/
def toJsonAll : List Value → List Json
  | [] => []
  | item :: items => toJson item :: toJsonAll items

end

/-- A row as a JSON object. -/
def rowToJson (row : Row) : Json := .object (row.map fun e => (e.1, e.2.toJson))

end Value

end RelQuery
