import RelQuery.Text.Blank

/-!
# The words of a query

The closed vocabularies of queries: what a statement does, how a join joins,
how a group combines its members, how a test compares, and which way a term
sorts.  Each has the words it is written with and a reader for them.  Words are
compared in any ASCII case where a reader says so.
-/

namespace RelQuery

/-! ## Statements and joins -/

/-- What a statement does. -/
inductive Kind where
  /-- Reads rows. -/
  | read
  /-- Inserts a row. -/
  | create
  /-- Changes rows. -/
  | update
  /-- Removes rows. -/
  | delete
  deriving DecidableEq, Repr

namespace Kind

/-- The word for a kind. -/
def name : Kind → String
  | read => "read"
  | create => "create"
  | update => "update"
  | delete => "delete"

/-- The kind of a word, which must be spelt as `name` spells it. -/
def ofName? (word : String) : Option Kind :=
  [read, create, update, delete].find? fun k => k.name == word

end Kind

/-- How a join joins.  A join may also leave this open. -/
inductive JoinKind where
  /-- Rows with a partner. -/
  | inner
  /-- All rows of the left side. -/
  | left
  /-- All rows of the right side. -/
  | right
  deriving DecidableEq, Repr

namespace JoinKind

/-- The word for a join kind. -/
def name : JoinKind → String
  | inner => "inner"
  | left => "left"
  | right => "right"

/-- The join kind of a word, which must be spelt as `name` spells it. -/
def ofName? (word : String) : Option JoinKind := [inner, left, right].find? fun k => k.name == word

/-- The keyword that opens a join clause. -/
def keyword : Option JoinKind → String
  | some inner => "INNER JOIN"
  | some left => "LEFT JOIN"
  | some right => "RIGHT JOIN"
  | none => "JOIN"

end JoinKind

/-! ## Connectives -/

/-- How a group combines its members. -/
inductive Connective where
  /-- All members hold. -/
  | and
  /-- Some member holds. -/
  | or
  deriving DecidableEq, Repr

namespace Connective

/-- The connective that a key of a condition names, in any ASCII case. -/
def ofKey? (key : String) : Option Connective :=
  if Text.sameWord key "and" then some and
  else if Text.sameWord key "or" then some or
  else none

/-- The keyword of a connective. -/
def keyword : Connective → String
  | and => "AND"
  | or => "OR"

/-- The keyword between two members. -/
def joiner (b : Connective) : String := " " ++ b.keyword ++ " "

end Connective

/-! ## Operators -/

/-- How a test compares a field with a value. -/
inductive Operator where
  /-- Equal. -/
  | eq
  /-- Not equal. -/
  | ne
  /-- Greater. -/
  | gt
  /-- Greater or equal. -/
  | ge
  /-- Less. -/
  | lt
  /-- Less or equal. -/
  | le
  /-- In a closed range. -/
  | between
  /-- Matches a pattern. -/
  | like
  /-- Matches no pattern. -/
  | notLike
  deriving DecidableEq, Repr

namespace Operator

/-- The operator as a statement writes it. -/
def sql : Operator → String
  | eq => "="
  | ne => "!="
  | gt => ">"
  | ge => ">="
  | lt => "<"
  | le => "<="
  | between => "BETWEEN"
  | like => "like"
  | notLike => "not like"

/-- The operator that a text spells between blanks, words in any ASCII case. -/
def ofText? (text : String) : Option Operator :=
  let word := Text.trim text
  if word = "=" ∨ word = "==" then some eq
  else if word = "!=" ∨ word = "<>" then some ne
  else if word = ">" then some gt
  else if word = ">=" then some ge
  else if word = "<" then some lt
  else if word = "<=" then some le
  else if Text.sameWord word "between" then some between
  else if Text.sameWord word "like" then some like
  else if Text.sameWord word "not like" then some notLike
  else none

end Operator

/-! ## Directions -/

/-- Which way a term sorts. -/
inductive Direction where
  /-- Least first. -/
  | asc
  /-- Greatest first. -/
  | desc
  deriving DecidableEq, Repr

namespace Direction

/-- The keyword of a direction. -/
def keyword : Direction → String
  | asc => "ASC"
  | desc => "DESC"

/-- The direction a text spells.  Every text but `desc`, in any ASCII case and
between blanks, means ascending. -/
def ofText (text : String) : Direction :=
  if Text.sameWord (Text.trim text) "desc" then desc else asc

end Direction

end RelQuery
