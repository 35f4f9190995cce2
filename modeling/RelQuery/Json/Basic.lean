import RelQuery.Binary64.Text
import RelQuery.Entries
import RelQuery.Text.Integer

/-!
# JSON values

A JSON value keeps the order of its objects.  Its numbers are whole numbers of
sixty-four bits, with or without a sign, or finite binary64 numbers.

* `compact` writes a value without blanks.
* `pretty` writes it over several lines, two blanks for each level.
* `settle` leaves each key of each object once: first position, last value.

The writers escape the quotation mark, the backslash and the characters below
U+0020, and write every other character as it is.
-/

namespace RelQuery

/-! ## Values -/

/-- A number as a JSON document holds it. -/
inductive Json.Number where
  /-- A whole number that fits sixty-four bits, with or without a sign. -/
  | integer (n : Int) (fits : -0x8000000000000000 ≤ n ∧ n < 0x10000000000000000)
  /-- Any other number. -/
  | decimal (x : Binary64) (finite : x.isFinite = true)
  deriving DecidableEq

/-- A JSON value. -/
inductive Json where
  /-- The word `null`. -/
  | null
  /-- One of the words `true` and `false`. -/
  | bool (b : Bool)
  /-- A number. -/
  | number (n : Json.Number)
  /-- A string. -/
  | string (s : String)
  /-- An array. -/
  | array (items : List Json)
  /-- An object, its entries in the order in which they were written. -/
  | object (entries : List (String × Json))

namespace Json

/-- The whole number of a sixty-four bit integer. -/
def Number.ofInt64 (n : Int64) : Number :=
  .integer n.toInt ⟨Int64.le_toInt n, by have := n.toInt_lt; omega⟩

/-- The integer that a number is, if it fits sixty-four bits with a sign. -/
def Number.toInt64? : Number → Option Int64
  | .integer n _ => if n < 0x8000000000000000 then some (Int64.ofInt n) else none
  | .decimal .. => none

/-- The binary64 number nearest to a number. -/
def Number.toBinary64 : Number → Binary64
  | .integer n _ => Binary64.ofInt n
  | .decimal x _ => x

/-! ## Writing -/

/-- A digit of base sixteen, in small letters. -/
def hexDigit (n : Nat) : Char := if n < 10 then Char.ofNat (48 + n) else Char.ofNat (87 + n)

/-- A character inside the quotes of a string. -/
def escape (c : Char) : List Char :=
  if c = '"' then ['\\', '"']
  else if c = '\\' then ['\\', '\\']
  else if c = '\x08' then ['\\', 'b']
  else if c = '\x0c' then ['\\', 'f']
  else if c = '\n' then ['\\', 'n']
  else if c = '\r' then ['\\', 'r']
  else if c = '\t' then ['\\', 't']
  else if c.toNat < 32 then
    ['\\', 'u', '0', '0', hexDigit (c.toNat / 16), hexDigit (c.toNat % 16)]
  else [c]

/-- A string in its quotes. -/
def quoted (s : String) : String := String.ofList ('"' :: s.toList.flatMap escape ++ ['"'])

/-- The digits of a number. -/
def Number.toText : Number → String
  | .integer n _ => Text.integerText n
  | .decimal x _ => x.toJsonText?.getD ""

mutual

/-- A value without blanks. -/
def compact : Json → String
  | null => "null"
  | bool b => if b then "true" else "false"
  | number n => n.toText
  | string s => quoted s
  | array items => "[" ++ String.intercalate "," (compactItems items) ++ "]"
  | object entries => "\x7b" ++ String.intercalate "," (compactEntries entries) ++ "\x7d"

/-- The items of an array, each without blanks. -/
def compactItems : List Json → List String
  | [] => []
  | item :: items => compact item :: compactItems items

/-- The entries of an object, each without blanks. -/
def compactEntries : List (String × Json) → List String
  | [] => []
  | (key, value) :: entries => (quoted key ++ ":" ++ compact value) :: compactEntries entries

end

/-- A line break and the indentation of a level. -/
def lineAt (level : Nat) : String := "\n" ++ String.ofList (List.replicate (2 * level) ' ')

/-- The parts of an array or object between its brackets, a line each. -/
def bracketed (opening closing : String) (level : Nat) (parts : List String) : String :=
  if parts.isEmpty then opening ++ closing
  else
    opening ++ lineAt (level + 1) ++ String.intercalate ("," ++ lineAt (level + 1)) parts
      ++ lineAt level ++ closing

mutual

/-- A value over several lines, as it stands at a level of indentation. -/
def prettyAt (level : Nat) : Json → String
  | null => "null"
  | bool b => if b then "true" else "false"
  | number n => n.toText
  | string s => quoted s
  | array items => bracketed "[" "]" level (prettyItems (level + 1) items)
  | object entries => bracketed "\x7b" "\x7d" level (prettyEntries (level + 1) entries)

/-- The items of an array at a level. -/
def prettyItems (level : Nat) : List Json → List String
  | [] => []
  | item :: items => prettyAt level item :: prettyItems level items

/-- The entries of an object at a level. -/
def prettyEntries (level : Nat) : List (String × Json) → List String
  | [] => []
  | (key, value) :: entries =>
    (quoted key ++ ": " ++ prettyAt level value) :: prettyEntries level entries

end

/-- A value over several lines. -/
def pretty (value : Json) : String := prettyAt 0 value

/-! ## Repeated keys -/

mutual

/-- The value with every key of every object once. -/
def settle : Json → Json
  | array items => array (settleItems items)
  | object entries => object (Entries.settle (settleEntries entries))
  | value => value

/-- The items of an array, settled. -/
def settleItems : List Json → List Json
  | [] => []
  | item :: items => settle item :: settleItems items

/-- The entries of an object with their values settled. -/
def settleEntries : List (String × Json) → List (String × Json)
  | [] => []
  | (key, value) :: entries => (key, settle value) :: settleEntries entries

end

/-! ## Checks -/

example : (array [null, string "a\"\n\x01"]).compact = "[null,\"a\\\"\\n\\u0001\"]" := by
  decide +kernel

example : (object [("a", array []), ("b", array [bool true])]).pretty =
    "\x7b\n  \"a\": [],\n  \"b\": [\n    true\n  ]\n\x7d" := by
  decide +kernel

end Json

end RelQuery
