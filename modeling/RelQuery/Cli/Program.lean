import RelQuery.Cli.Help
import RelQuery.Config
import RelQuery.DataSource
import RelQuery.Query.Document
import RelQuery.Schema.Document
import RelQuery.Text.Printable

/-!
# The program

The command line as a function of its arguments and of a *host*, which stands
for the files, the environment and the databases around it.  The host may be
the real one or a table of texts, so the program is written once for any monad.

* A configuration is read first: the one that is named, else `relq.toml`, else
  the one of the user, else none.  Options override it.
* The schema is read next, as JSON if its name ends in `.json` and as TOML
  otherwise, and then the query: from standard input, from the argument itself
  if it starts with a brace, and else from a file.
* The models of the query are bound to the schema, and the command runs.

A failure ends the command with exit code 1 and one line.  The line names what
was being done and the causes one after another.  Explaining a query that does
not compile is no failure.
-/

namespace RelQuery.Cli

/-! ## Hosts and outputs -/

/-- What the program reaches beyond its arguments. -/
structure Host (m : Type → Type) where
  /-- The text of a file, or why it cannot be read. -/
  fileText : String → m (Except String String)
  /-- The text of standard input, or why it cannot be read. -/
  inputText : m (Except String String)
  /-- Whether there is a file or directory at a path. -/
  hasFile : String → m Bool
  /-- The path of the configuration of the user. -/
  userConfig : Option String
  /-- The database that the environment names. -/
  databaseUrl : Option String
  /-- The transport to a database. -/
  connect : String → m (Except Error Transport)

/-- What a run of the program leaves. -/
structure Output where
  /-- The exit code. -/
  code : Nat := 0
  /-- The text on standard output. -/
  out : String := ""
  /-- The text on standard error. -/
  err : String := ""
  deriving DecidableEq, Repr

/-! ## Failures -/

/-- Why a command fails. -/
inductive Failure where
  /-- A reason in words. -/
  | plain (text : String)
  /-- An error. -/
  | error (e : Error)
  /-- A failure while something was being done. -/
  | within (context : String) (f : Failure)

/-- The causes that are told after an error, though its message tells them
already. -/
def causes : Error → List String
  | .cast _ cause => [cause.message]
  | .io text => [text]
  | _ => []

/-- The message of a failure. -/
def Failure.message (w : Wording) : Failure → String
  | plain text => text
  | error e => String.intercalate ": " (e.message w :: causes e)
  | within context f => context ++ ": " ++ f.message w

/-- The output of a command that fails after it has written some text. -/
def Failure.output (w : Wording) (err : String) (f : Failure) : Output :=
  { code := 1, err := err ++ "Error: " ++ f.message w ++ "\n" }

/-- A result or an error as a step of a command. -/
def orFail {m : Type → Type} [Monad m] {α : Type} (x : Except Error α) : ExceptT Failure m α :=
  ExceptT.mk (pure (x.mapError Failure.error))

/-- A step while something is being done. -/
def doing {m : Type → Type} [Monad m] {α : Type} (context : String) (x : ExceptT Failure m α) :
    ExceptT Failure m α :=
  ExceptT.mk do return (← x.run).mapError (Failure.within context)

/-! ## Reading what a command needs -/

section Reading

variable {m : Type → Type} [Monad m]

/-- The configuration in a file. -/
def readConfig (host : Host m) (path : String) : ExceptT Failure m Config := do
  let text ← (← host.fileText path : Except String String) |>.mapError Error.io |> orFail
  orFail (Config.ofToml text)

/-- The configuration in the first of some files that is there. -/
def firstConfig (host : Host m) : List String → ExceptT Failure m Config
  | [] => return {}
  | path :: paths => do if ← host.hasFile path then readConfig host path else firstConfig host paths

/-- The configuration of a command. -/
def configFor (host : Host m) (o : Options) : ExceptT Failure m Config := do
  let config ← match o.config with
    | some path => doing ("reading config " ++ path) (readConfig host path)
    | none => firstConfig host ("relq.toml" :: host.userConfig.toList)
  let dialect ← match o.dialect with
    | some name => orFail (Dialect.ofName name)
    | none => pure config.dialect
  return { config with
    dialect := dialect
    schema := o.schema <|> config.schema
    databaseUrl := o.databaseUrl <|> host.databaseUrl <|> config.databaseUrl }

/-- The extension of the file at a path: what follows the last point of its name,
unless nothing stands before. -/
def extension? (path : String) : Option String :=
  let name := ((Text.splitAt '/' path.toList).reverse.dropWhile List.isEmpty).headD []
  match (Text.splitAt '.' name).reverse with
  | last :: before :: rest =>
    if before.isEmpty && rest.isEmpty then none else some (String.ofList last)
  | _ => none

/-- The registry in a file. -/
def readRegistry (host : Host m) (path : String) : ExceptT Failure m Registry := do
  let text ← (← host.fileText path : Except String String) |>.mapError Error.io |> orFail
  orFail (if extension? path = some "json" then Registry.ofJson text else Registry.ofToml text)

/-- The text of a query document. -/
def documentText (host : Host m) (input : String) : ExceptT Failure m String :=
  if input = "-" then ExceptT.mk do return (← host.inputText).mapError Failure.plain
  else if (Text.dropBlanks input.toList).head? = some '\x7b' then return input
  else
    doing ("reading query file " ++ input)
      (ExceptT.mk do return (← host.fileText input).mapError Failure.plain)

/-- What a command on a query works with. -/
structure Prepared where
  /-- The configuration. -/
  config : Config
  /-- The registry. -/
  registry : Registry
  /-- The query, bound to the registry. -/
  query : Query

/-- What a command on a query needs, read in order. -/
def prepare (host : Host m) (o : Options) (input : String) : ExceptT Failure m Prepared := do
  let config ← configFor host o
  let registry ← match config.schema with
    | some path => doing ("loading schema " ++ path) (readRegistry host path)
    | none => pure {}
  let text ← documentText host input
  let query ← orFail (Query.ofText text)
  return ⟨config, registry, registry.bind query⟩

end Reading

/-! ## Notes on the way -/

/-- A character in a quoted path.  One that is not printable stands as its code
point. -/
def shownChar (c : Char) : String :=
  if c = '"' then "\\\""
  else if c = '\\' then "\\\\"
  else if c = '\n' then "\\n"
  else if c = '\r' then "\\r"
  else if c = '\t' then "\\t"
  else if c = '\x00' then "\\0"
  else if Text.isPrintable c then String.singleton c
  else "\\u\x7b" ++ String.ofList (Nat.toDigits 16 c.toNat) ++ "\x7d"

/-- A path in quotes. -/
def shownPath (path : String) : String := "\"" ++ String.join (path.toList.map shownChar) ++ "\""

/-- The note on the dialect and the schema file. -/
def dialectNote (config : Config) : String :=
  "Dialect: " ++ config.dialect.name ++ " via "
    ++ shownPath (config.schema.getD "(no schema)") ++ "\n"

/-- The note on the statement and the database. -/
def databaseNote (sql url : String) : String := "SQL: " ++ sql ++ "\nConnecting to: " ++ url ++ "\n"

/-! ## Commands -/

namespace Prepared

/-- The compiler for a command. -/
def compiler (p : Prepared) : Compiler := Compiler.ofConfig p.config

/-- The statement of the query. -/
def statement (p : Prepared) : Except Error String :=
  (p.compiler.compile p.registry.resolver p.query).1

/-- The output of the command that prints a statement. -/
def compileOutput (p : Prepared) (w : Wording) (err : String) : Output :=
  match p.statement with
  | .ok sql => { out := sql ++ "\n", err := err }
  | .error e => (Failure.error e).output w err

/-- The output of the command that explains a query. -/
def explainOutput (p : Prepared) (w : Wording) (err : String) : Output :=
  let lines := structureLines p.query
  match p.statement with
  | .ok sql => { out := unlines (lines ++ ["  " ++ sql]), err := err }
  | .error e => { out := unlines lines, err := err ++ "Compile Error: " ++ e.message w ++ "\n" }

/-- The output of a result. -/
def resultOutput (format : Format) (err : String) : Outcome → Output
  | .affected n => { out := "✓ " ++ Text.naturalText n ++ " rows affected\n", err := err }
  | .rows rows =>
    match format with
    | .table => { out := unlines (tableLines rows), err := err }
    | .json => { out := unlines (jsonLines rows), err := err }

/-- The output of the command that runs a query. -/
def execOutput {m : Type → Type} [Monad m] (p : Prepared) (host : Host m) (w : Wording)
    (o : Options) (err : String) : m Output := do
  match p.config.databaseUrl with
  | none =>
    let why := "No database URL. Use --database-url or set RELQ_DATABASE_URL"
    return (Failure.plain why).output w err
  | some url =>
    match p.statement with
    | .error e => return (Failure.error e).output w err
    | .ok sql =>
      let err := if o.verbose then err ++ databaseNote sql url else err
      match ← host.connect url with
      | .error e => return (Failure.error e).output w err
      | .ok transport =>
        match (DataSource.call p.compiler p.registry.resolver transport .run p.query).outcome with
        | .error e => return (Failure.error e).output w err
        | .ok outcome => return resultOutput (o.format.getD .table) err outcome

/-- The output of a command on a query. -/
def output {m : Type → Type} [Monad m] (p : Prepared) (host : Host m) (w : Wording) (c : Command)
    (o : Options) : m Output :=
  let err := if o.verbose then dialectNote p.config else ""
  match c with
  | .compile | .operators => return p.compileOutput w err
  | .explain => return p.explainOutput w err
  | .exec => p.execOutput host w o err

end Prepared

/-! ## The whole -/

/-- The output for a request. -/
def answer {m : Type → Type} [Monad m] (host : Host m) (w : Wording) : Request → m Output
  | .version => return { out := unlines [versionLine] }
  | .help topic => return { out := helpText topic host.databaseUrl }
  | .plain _ => return { out := unlines operatorLines }
  | .query command input o => do
    match ← (prepare host o input).run with
    | .error f => return f.output w ""
    | .ok p => p.output host w command o
  | .misuse => return { code := 2, err := helpText .program host.databaseUrl }

/-- The output of the program for its arguments. -/
def run {m : Type → Type} [Monad m] (host : Host m) (w : Wording) (args : List String) : m Output :=
  answer host w (Request.ofArguments args)

/-! ## Checks -/

example : shownPath "it's\u0301\n" = "\"it's\\u\x7b301\x7d\\n\"" := by decide +kernel

example : extension? "a.b/c.json" = some "json" ∧ extension? "a/.json" = none ∧
    extension? "a.d/c" = none := by
  decide +kernel

end RelQuery.Cli
