import RelQuery.Schema.Cache
import RelQuery.Sql.Dialect
import RelQuery.Sql.Writer

/-!
# Compilers

A compiler writes statements for one database and keeps the schemas it has
asked for.  Compiling answers as if every schema were looked up when it is met:
the answers come from the cache as it stands and otherwise from the resolver,
and afterwards the cache holds what was asked, also when compiling fails.
-/

namespace RelQuery

/-- The nesting that is allowed where nothing else is said. -/
def defaultMaxDepth : Nat := 32

/-- A compiler for one database. -/
structure Compiler where
  /-- How identifiers and strings are written. -/
  generator : Generator := Dialect.ansi.generator
  /-- How deeply queries may be nested. -/
  maxDepth : Nat := defaultMaxDepth
  /-- The schemas that have been resolved. -/
  cache : SchemaCache := {}

namespace Compiler

/-- What compiling depends on, by the cache as it stands. -/
def context (c : Compiler) (resolver : Resolver) : Context :=
  ⟨c.cache.schemaFor resolver, c.maxDepth⟩

/-- The compiler after a computation has asked for schemas. -/
def learn (c : Compiler) (resolver : Resolver) (asked : List String) : Compiler :=
  { c with cache := c.cache.lookUpAll resolver asked }

/-- The text of the statement of a query. -/
def compile (c : Compiler) (resolver : Resolver) (q : Query) : Except Error String × Compiler :=
  let run := Sql.compile c.generator (c.context resolver) q
  (run.outcome, c.learn resolver run.asked)

/-- The schema of a model. -/
def schemaFor (c : Compiler) (resolver : Resolver) (model : String) :
    Except Error Schema × Compiler :=
  (c.cache.schemaFor resolver model, c.learn resolver [model])

/-- A dotted name as the database expects it. -/
def quote (c : Compiler) (name : String) : String := c.generator.quoteName name

end Compiler

/-! ## Reports -/

/-- A cache as a diagnostic shows it. -/
def SchemaCache.report (cache : SchemaCache) : String :=
  "SchemaCache \x7b cached: " ++ Text.naturalText cache.size ++ " \x7d"

/-- A compiler as a diagnostic shows it. -/
def Compiler.report (c : Compiler) : String :=
  "Compiler \x7b schemas: " ++ c.cache.report ++ ", max_depth: "
    ++ Text.naturalText c.maxDepth ++ ", .. \x7d"

end RelQuery
