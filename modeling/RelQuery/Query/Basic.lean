import RelQuery.Binary64.Text
import RelQuery.Entries
import RelQuery.Text.Integer
import RelQuery.Vocabulary

/-!
# Queries, conditions and values

A query says what to read or write without naming a database.  It targets a
model, may restrict rows by a condition and may join other queries.  A
condition is a tree of tests, and a value in a test may be a query again, so
the three types are defined together.

* A *test* (`Condition.leaf`) compares a field with a value.
* A *group* combines its members by one connective.
* *Raw* text stands in a statement as it is written.

`Value.display` is the text of a value in messages.  It quotes strings without
escaping them, since no reader takes it back.
-/

namespace RelQuery

/-! ## Models and order terms -/

/-- The model a query targets. -/
structure Entity where
  /-- The name of the model, which is also its alias in a statement. -/
  name : String
  /-- The table behind the model. -/
  source : String
  /-- The primary key. -/
  key : String
  deriving DecidableEq, Repr

/-- The primary key of a model that names none. -/
def Entity.defaultKey : String := "id"

/-- A model with the parts it leaves open filled in. -/
def Entity.ofParts (name : String) (source key : Option String) : Entity :=
  ⟨name, source.getD name, key.getD Entity.defaultKey⟩

/-- A term of a sort order. -/
structure OrderTerm where
  /-- The field or expression to sort by. -/
  field : String
  /-- Which way to sort. -/
  direction : Direction
  deriving DecidableEq, Repr

/-! ## The three types -/

mutual

/-- A value in a test or a payload. -/
inductive Value where
  /-- No value. -/
  | null
  /-- A truth value. -/
  | bool (b : Bool)
  /-- A whole number. -/
  | int (n : Int64)
  /-- A number with places. -/
  | float (x : Binary64)
  /-- A text. -/
  | string (s : String)
  /-- Several values, for membership and ranges. -/
  | list (items : List Value)
  /-- The values that another query selects. -/
  | query (q : Query)

/-- A filter on rows. -/
inductive Condition where
  /-- A comparison of one field. -/
  | leaf (field : String) (op : Operator) (value : Value)
  /-- Members combined by a connective. -/
  | group (connective : Connective) (members : List Condition)
  /-- Text for the statement, as it is. -/
  | raw (sql : String)

/-- What to read or write. -/
structure Query where
  /-- What the statement does. -/
  kind : Kind := .read
  /-- The model it targets. -/
  model : Option Entity := none
  /-- The selected fields.  None selects all. -/
  fields : List String := []
  /-- Which rows are meant. -/
  conditions : Option Condition := none
  /-- The queries joined to this one. -/
  joins : List Query := []
  /-- What this query is joined on, where it is a join. -/
  constraint : Option String := none
  /-- How this query is joined, where it is a join. -/
  joinKind : Option JoinKind := none
  /-- How many rows at most.  Zero means all. -/
  limit : Option UInt32 := none
  /-- How many rows to skip. -/
  offset : Option UInt32 := none
  /-- How the rows are sorted. -/
  order : List OrderTerm := []
  /-- The fields to write, or of the row to delete. -/
  payload : Option (List (String × Value)) := none

end

/-! ## Texts of values -/

mutual

/-- The text of a value in messages. -/
def Value.display : Value → String
  | .null => "NULL"
  | .bool b => if b then "true" else "false"
  | .int n => Text.integerText n.toInt
  | .float x => x.toText
  | .string s => "'" ++ s ++ "'"
  | .list items => "[" ++ String.intercalate ", " (Value.displayAll items) ++ "]"
  | .query _ => "(SUBQUERY)"

/-- The texts of several values. -/
def Value.displayAll : List Value → List String
  | [] => []
  | item :: items => item.display :: Value.displayAll items

end

/-- Whether a value is the null value. -/
def Value.isNull : Value → Bool
  | .null => true
  | _ => false

/-- Whether a value is one literal: neither a list nor a query. -/
def Value.isScalar : Value → Bool
  | .list _ => false
  | .query _ => false
  | _ => true

/-! ## Raw and blank conditions -/

/-- Whether a condition is raw text. -/
def Condition.isRaw : Condition → Bool
  | .raw _ => true
  | _ => false

mutual

/-- Whether a condition says nothing: no test anywhere, and no raw text that is
not blank. -/
def Condition.isBlank : Condition → Bool
  | .leaf .. => false
  | .raw sql => Text.isBlankText sql
  | .group _ members => Condition.allBlank members

/-- Whether all conditions of a list say nothing. -/
def Condition.allBlank : List Condition → Bool
  | [] => true
  | c :: cs => c.isBlank && Condition.allBlank cs

end

/-! ## Checks -/

example : (Value.list [.int 1, .string "a", .null]).display = "[1, 'a', NULL]" := by decide +kernel

example : (Condition.group .or [.raw " ", .group .and []]).isBlank = true := by decide +kernel

end RelQuery
