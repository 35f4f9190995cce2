import RelQuery.Text.Blank

/-!
# Type tags

The declared type of a field decides how its values are written and read.
Schemas name types in the words of several databases, and each word stands for
one of five tags.  A word that is none of them leaves the field untyped.
-/

namespace RelQuery

/-- The declared type of a field. -/
inductive TypeTag where
  /-- Text, dates and times. -/
  | string
  /-- Whole numbers. -/
  | integer
  /-- Numbers with places. -/
  | float
  /-- Truth values. -/
  | boolean
  /-- No declared type. -/
  | untyped
  deriving DecidableEq, Repr

namespace TypeTag

/-- The name of a tag in messages. -/
def name : TypeTag → String
  | string => "string"
  | integer => "integer"
  | float => "float"
  | boolean => "boolean"
  | untyped => "untyped"

/-- The words for text, dates and times. -/
def stringWords : List String :=
  ["string", "text", "varchar", "char", "date", "datetime", "timestamp"]

/-- The words for whole numbers. -/
def integerWords : List String := ["integer", "int", "bigint", "smallint"]

/-- The words for numbers with places. -/
def floatWords : List String := ["float", "double", "decimal", "real", "numeric"]

/-- The words for truth values. -/
def booleanWords : List String := ["boolean", "bool"]

/-- The tag of a type name, in any ASCII case and between blanks. -/
def ofName (text : String) : TypeTag :=
  let word := Text.lowerAscii (Text.trim text)
  if word ∈ stringWords then string
  else if word ∈ integerWords then integer
  else if word ∈ floatWords then float
  else if word ∈ booleanWords then boolean
  else untyped

/-! ## Checks -/

example : ofName " BigInt\t" = integer ∧ ofName "jsonb" = untyped := by decide +kernel

end TypeTag

end RelQuery
