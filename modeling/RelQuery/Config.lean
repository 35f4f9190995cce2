import RelQuery.Compiler
import RelQuery.Toml.Document

/-!
# Configurations

A configuration is a TOML document with up to four entries: `dialect`,
`max_depth`, `database_url` and `schema`.  Any other entry is a fault.

* The dialect is one of its words in small letters.  A table whose one entry has
  the word as its key and nothing in its value says the same.
* The depth is a whole number that is not negative.
* The other two are strings, and have no value when they are left out.
-/

namespace RelQuery

/-- How queries are compiled and where they are run. -/
structure Config where
  /-- The dialect of the statements. -/
  dialect : Dialect := .ansi
  /-- How deeply queries may be nested. -/
  maxDepth : Nat := defaultMaxDepth
  /-- The database. -/
  databaseUrl : Option String := none
  /-- The path of the schema file. -/
  schema : Option String := none
  deriving DecidableEq, Repr

namespace Config

/-! ## Entries -/

/-- Whether a value is an empty array or table. -/
def isEmpty : Toml → Bool
  | .array [] => true
  | .inline [] => true
  | .table _ [] => true
  | _ => false

/-- The word of a closed vocabulary: a string, or the key of a table with
nothing else. -/
def word? : Toml → Option String
  | .string s => some s
  | .inline [(key, value)] => if isEmpty value then some key else none
  | .table _ [(key, value)] => if isEmpty value then some key else none
  | _ => none

/-- A count. -/
def count? : Toml → Option Nat
  | .integer n => if 0 ≤ n.toInt then some n.toInt.toNat else none
  | _ => none

/-- A text. -/
def text? : Toml → Option String
  | .string s => some s
  | _ => none

/-- The configuration with an entry. -/
def withEntry (c : Config) (entry : String × Toml) : Option Config :=
  match entry with
  | ("dialect", value) => ((word? value).bind Dialect.ofWord?).map fun d => { c with dialect := d }
  | ("max_depth", value) => (count? value).map fun n => { c with maxDepth := n }
  | ("database_url", value) => (text? value).map fun s => { c with databaseUrl := some s }
  | ("schema", value) => (text? value).map fun s => { c with schema := some s }
  | _ => none

/-! ## Documents -/

/-- The configuration of a TOML text. -/
def ofToml (text : String) : Except Error Config :=
  match (Toml.ofText? text).bind fun entries => entries.foldlM withEntry {} with
  | some c => .ok c
  | none => .error .configUnreadable

end Config

/-- The compiler of a configuration. -/
def Compiler.ofConfig (config : Config) : Compiler :=
  { generator := config.dialect.generator, maxDepth := config.maxDepth }

/-! ## Checks -/

/-- The configuration of a text, if it is one. -/
def Config.read (text : String) : Option Config := (Config.ofToml text).toOption

example : Config.read "dialect = \"mysql\" # c\nmax_depth = 0x10" =
    some { dialect := .mySql, maxDepth := 16 } := by
  decide +kernel

example : Config.read "[dialect.plain]" = some { dialect := .plain } := by decide +kernel

example : Config.read "max_depht = 3" = none ∧ Config.read "dialect = \"ANSI\"" = none ∧
    Config.read "max_depth = -1" = none := by
  decide +kernel

end RelQuery
