import RelQuery.Error
import RelQuery.Sql.Piece

/-!
# Dialects

The four dialects and their generators.

* `ansi` delimits identifiers by double quotes, `mySql` by backticks and
  `sqlServer` by brackets.  A closing delimiter inside is written twice.
* `plain` writes identifiers as they are.
* A string stands between single quotes, and a quote inside is written twice.
  In `mySql` a backslash escapes, so it is written twice as well.
-/

namespace RelQuery

/-! ## Delimiters -/

/-- The characters with one of them written twice. -/
def doubled (mark : Char) (cs : List Char) : List Char :=
  cs.flatMap fun c => if c = mark then [c, c] else [c]

/-- A text between delimiters, with the closing one doubled inside. -/
def delimited (opening closing : Char) (s : String) : String :=
  String.ofList (opening :: doubled closing s.toList ++ [closing])

/-- A string literal in which only the quote is special. -/
def quotedString (s : String) : String := delimited '\'' '\'' s

/-- A string literal in which the backslash is special too. -/
def backslashedString (s : String) : String :=
  delimited '\'' '\'' (String.ofList (doubled '\\' s.toList))

/-! ## Dialects -/

/-- A family of databases that agree on identifiers and strings. -/
inductive Dialect where
  /-- The standard, also for PostgreSQL and SQLite. -/
  | ansi
  /-- MySQL and MariaDB. -/
  | mySql
  /-- SQL Server. -/
  | sqlServer
  /-- No delimiters. -/
  | plain
  deriving DecidableEq, Repr

namespace Dialect

/-- The generator of a dialect. -/
def generator : Dialect → Generator
  | ansi => ⟨delimited '"' '"', quotedString⟩
  | mySql => ⟨delimited '\x60' '\x60', backslashedString⟩
  | sqlServer => ⟨delimited '[' ']', quotedString⟩
  | plain => ⟨id, quotedString⟩

/-- The name of a dialect in reports. -/
def name : Dialect → String
  | ansi => "Ansi"
  | mySql => "MySql"
  | sqlServer => "SqlServer"
  | plain => "Plain"

/-- The dialect of a word in small letters. -/
def ofWord? (word : String) : Option Dialect :=
  if word ∈ ["ansi", "postgres", "sqlite"] then some ansi
  else if word ∈ ["mysql", "mariadb"] then some mySql
  else if word ∈ ["sqlserver", "mssql"] then some sqlServer
  else if word ∈ ["plain", "none"] then some plain
  else none

/-- The dialect of a name in any ASCII case. -/
def ofName (name : String) : Except Error Dialect :=
  let word := Text.lowerAscii name
  match ofWord? word with
  | some d => .ok d
  | none => .error (.unknownDialect word)

/-! ## Checks -/

example : mySql.generator.stringLiteral "a\\'b" = "'a\\\\''b'" := by decide +kernel

example : sqlServer.generator.quoteName "a]b.c" = "[a]]b].[c]" := by decide +kernel

end Dialect

end RelQuery
