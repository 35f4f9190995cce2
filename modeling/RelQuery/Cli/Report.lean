import RelQuery.Query.Basic
import RelQuery.Value.Decode

/-!
# Reports

The texts that the commands print, line by line.

* The structure of a query: one line for each part that is there, and the
  condition as an indented tree.
* The operators of conditions, as a table with fixed columns.
* The rows of a result.  A table has the columns of the first row.  The width of
  a column is that of its longest text in bytes of UTF-8, and cells are padded
  by counting characters, so columns with other letters than ASCII come out
  wider than they need to be.
-/

namespace RelQuery.Cli

/-! ## Lines and columns -/

/-- Lines as a text, each with a line break after it. -/
def unlines (lines : List String) : String := String.join (lines.map (· ++ "\n"))

/-- A text with blanks after it up to a width in characters. -/
def padded (width : Nat) (s : String) : String :=
  s ++ String.ofList (List.replicate (width - s.length) ' ')

/-- A line of so many dashes. -/
def dashes (width : Nat) : String := String.ofList (List.replicate width '─')

/-! ## The structure of a query -/

/-- A text at a level of indentation. -/
def indented (level : Nat) (s : String) : String :=
  String.ofList (List.replicate (2 * level) ' ') ++ s

mutual

/-- The lines of a condition at a level of indentation. -/
def conditionLines (level : Nat) : Condition → List String
  | .leaf field op value => [indented level (field ++ " " ++ op.sql ++ " " ++ value.display)]
  | .group connective members =>
    indented level connective.keyword :: memberLines (level + 1) members
  | .raw sql => [indented level ("raw " ++ sql)]

/-- The lines of the members of a group. -/
def memberLines (level : Nat) : List Condition → List String
  | [] => []
  | c :: cs => conditionLines level c ++ memberLines level cs

end

/-- The line of the model of a query. -/
def modelLine (m : Entity) : String :=
  "  Model: " ++ m.name ++ " (table " ++ m.source ++ ", key " ++ m.key ++ ")"

/-- The line of a join. -/
def joinLine (join : Query) : String :=
  "  Join: " ++ (join.model.map Entity.name).getD "?" ++ " " ++ join.constraint.getD ""

/-- The line of an order term. -/
def orderLine (term : OrderTerm) : String :=
  "  Order: " ++ term.field ++ " " ++ term.direction.keyword

/-- The lines of the structure of a query. -/
def structureLines (q : Query) : List String :=
  ["Parsed Structure:", "  Kind: " ++ q.kind.name]
    ++ (q.model.map modelLine).toList
    ++ (if q.fields.isEmpty then [] else ["  Fields: " ++ String.intercalate ", " q.fields])
    ++ (q.conditions.map fun c => "  Conditions:" :: conditionLines 2 c).getD []
    ++ q.joins.map joinLine
    ++ q.order.map orderLine
    ++ ["", "Generated SQL:"]

/-! ## The operators -/

/-- A row of the table of operators. -/
structure Usage where
  /-- How the operator is written. -/
  operator : String
  /-- What it is called. -/
  name : String
  /-- A condition with it. -/
  condition : String
  /-- What becomes of the condition. -/
  sql : String

/-- The line of a row. -/
def Usage.line (u : Usage) : String :=
  padded 12 u.operator ++ " " ++ padded 12 u.name ++ " " ++ padded 34 u.condition ++ " " ++ u.sql

/-- The rows. -/
def usages : List Usage :=
  [⟨"value", "Equality", "\x7b\"id\": 1\x7d", "id = 1"⟩,
    ⟨"[a, b]", "Membership", "\x7b\"id\": [1, 2]\x7d", "id IN (1, 2)"⟩,
    ⟨"=", "Equality", "\x7b\"id\": \x7b\"=\": 1\x7d\x7d", "(id = 1)"⟩,
    ⟨"!= <>", "Inequality", "\x7b\"id\": \x7b\"!=\": [1, 2]\x7d\x7d", "(id NOT IN (1, 2))"⟩,
    ⟨"> >= < <=", "Comparison", "\x7b\"n\": \x7b\">\": 1, \"<\": 9\x7d\x7d", "(n > 1 AND n < 9)"⟩,
    ⟨"between", "Range", "\x7b\"n\": \x7b\"between\": [1, 9]\x7d\x7d", "(n BETWEEN 1 AND 9)"⟩,
    ⟨"like", "Pattern", "\x7b\"t\": \x7b\"like\": \"%a%\"\x7d\x7d", "(t like '%a%')"⟩,
    ⟨"not like", "Pattern", "\x7b\"t\": \x7b\"not like\": \"%a%\"\x7d\x7d", "(t not like '%a%')"⟩,
    ⟨"null", "Null test", "\x7b\"t\": null\x7d", "t IS NULL"⟩,
    ⟨"$query", "Sub-query", "\x7b\"id\": \x7b\"$query\": \x7b...\x7d\x7d\x7d",
      "id IN (SELECT ...)"⟩,
    ⟨"or / and", "Grouping", "\x7b\"or\": \x7b\"a\": 1, \"b\": 2\x7d\x7d", "(a = 1 OR b = 2)"⟩]

/-- The lines of the table of operators. -/
def operatorLines : List String :=
  ["relq Condition Operators", "", Usage.line ⟨"Operator", "Name", "Condition", "SQL"⟩, dashes 90]
    ++ usages.map Usage.line

/-! ## Results -/

/-- The text of a value in a table.  A string stands without quotes. -/
def cellText : Value → String
  | .string s => s
  | value => value.display

/-- The text of a column of a row, which is empty where the row lacks it. -/
def cellOf (row : Row) (column : String) : String :=
  ((Entries.find? column row).map cellText).getD ""

/-- The width of a column in a table. -/
def widthOf (rows : List Row) (column : String) : Nat :=
  rows.foldl (fun width row => max width (cellOf row column).utf8ByteSize) column.utf8ByteSize

/-- The lines of a table with some columns. -/
def tableOf (columns : List String) (rows : List Row) : List String :=
  let widths := columns.map (widthOf rows)
  let line (cells : List String) := String.intercalate " │ " (List.zipWith padded widths cells)
  [line columns, String.intercalate "─┼─" (widths.map dashes)]
    ++ rows.map (fun row => line (columns.map (cellOf row)))
    ++ ["", Text.naturalText rows.length ++ " row(s) returned"]

/-- The lines of a table of rows. -/
def tableLines : List Row → List String
  | [] => ["(no results)"]
  | row :: rows => tableOf (Entries.keys row) (row :: rows)

/-- The lines of rows as JSON. -/
def jsonLines : List Row → List String
  | [] => ["(no results)"]
  | row :: rows => [(Json.array ((row :: rows).map Value.rowToJson)).pretty]

/-! ## Checks -/

example : tableLines [[("n", .int 10), ("s", .string "é")], [("n", .null)]] =
    ["n    │ s ", "─────┼───", "10   │ é ", "NULL │   ", "", "2 row(s) returned"] := by
  decide +kernel

example : conditionLines 1 (.group .or [.leaf "a" .eq (.int 1), .raw "x"]) =
    ["  OR", "    a = 1", "    raw x"] := by
  decide +kernel

end RelQuery.Cli
