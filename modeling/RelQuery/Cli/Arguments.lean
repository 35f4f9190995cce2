import RelQuery.Text.Blank

/-!
# Arguments

What a command line asks for.  Arguments are first sorted into tokens and then
read from left to right, and the first that has no meaning makes the whole
command line a misuse.

* A setting takes a value: `--name value`, `--name=value`, `-n value`, `-nvalue`
  or `-n=value`.  A value of its own argument does not start with a minus,
  unless it is a minus and nothing else.
* Letters may stand together, and only the last of them takes a value.
* After `--` every argument is an operand.
* The settings may stand before the command and after it.  On each side a
  setting stands at most once, and the one after the command wins.
* Help wins over a setting right before the command that cannot be, if its
  value is an argument of its own.
-/

namespace RelQuery.Cli

/-! ## What can be asked -/

/-- How the rows of a result are printed. -/
inductive Format where
  /-- As a table. -/
  | table
  /-- As JSON. -/
  | json
  deriving DecidableEq, Repr

/-- A command. -/
inductive Command where
  /-- Prints the statement of a query. -/
  | compile
  /-- Runs a query. -/
  | exec
  /-- Shows how a query is understood. -/
  | explain
  /-- Shows the operators of conditions. -/
  | operators
  deriving DecidableEq, Repr

namespace Command

/-- All commands. -/
def all : List Command := [compile, exec, explain, operators]

/-- The word for a command. -/
def name : Command → String
  | compile => "compile"
  | exec => "exec"
  | explain => "explain"
  | operators => "operators"

/-- The command of a word. -/
def ofName? (word : String) : Option Command := all.find? fun c => c.name == word

/-- Whether a command works on a query. -/
def takesQuery (c : Command) : Bool := c ≠ operators

end Command

/-- What a value can be given to. -/
inductive Setting where
  /-- The schema file. -/
  | schema
  /-- The dialect. -/
  | dialect
  /-- The configuration file. -/
  | config
  /-- The database. -/
  | databaseUrl
  /-- The format of results. -/
  | format
  deriving DecidableEq, Repr

/-- The values of the settings. -/
structure Options where
  /-- The schema file. -/
  schema : Option String := none
  /-- The dialect. -/
  dialect : Option String := none
  /-- The configuration file. -/
  config : Option String := none
  /-- The database. -/
  databaseUrl : Option String := none
  /-- The format of results. -/
  format : Option Format := none
  /-- Whether to say more on the way. -/
  verbose : Bool := false
  deriving DecidableEq, Repr

/-- What help can be on. -/
inductive Topic where
  /-- The program. -/
  | program
  /-- A command. -/
  | command (c : Command)
  /-- Help itself. -/
  | help
  deriving DecidableEq, Repr

/-- What a command line asks for. -/
inductive Request where
  /-- The version. -/
  | version
  /-- Help. -/
  | help (topic : Topic)
  /-- A command without a query. -/
  | plain (options : Options)
  /-- A command on a query. -/
  | query (command : Command) (input : String) (options : Options)
  /-- Nothing that can be done. -/
  | misuse
  deriving DecidableEq, Repr

namespace Options

/-- A text that is not empty. -/
def nonEmpty? (s : String) : Option String := if s.isEmpty then none else some s

/-- The format of a word. -/
def format? (word : String) : Option Format :=
  if word = "table" then some .table
  else if word = "json" then some .json
  else none

/-- A value for what has none yet. -/
def once {α : Type} (old new : Option α) : Option (Option α) :=
  match old, new with
  | none, some a => some (some a)
  | _, _ => none

/-- The options with a setting that was not given before.  A path is not empty,
and a format is one of its words. -/
def set? (o : Options) (setting : Setting) (value : String) : Option Options :=
  match setting with
  | .schema => (once o.schema (nonEmpty? value)).map fun v => { o with schema := v }
  | .dialect => (once o.dialect (some value)).map fun v => { o with dialect := v }
  | .config => (once o.config (nonEmpty? value)).map fun v => { o with config := v }
  | .databaseUrl => (once o.databaseUrl (some value)).map fun v => { o with databaseUrl := v }
  | .format => (once o.format (format? value)).map fun v => { o with format := v }

/-- The options of a command with those before it where it leaves them open. -/
def within (inner outer : Options) : Options where
  schema := inner.schema <|> outer.schema
  dialect := inner.dialect <|> outer.dialect
  config := inner.config <|> outer.config
  databaseUrl := inner.databaseUrl <|> outer.databaseUrl
  format := inner.format <|> outer.format
  verbose := inner.verbose || outer.verbose

end Options

/-! ## Tokens -/

/-- The meaning of an argument, or of a part of one. -/
inductive Token where
  /-- A setting with its value, which may be an argument of its own. -/
  | set (setting : Setting) (value : String) (apart : Bool)
  /-- The wish to hear more. -/
  | verbose
  /-- The wish for help. -/
  | help
  /-- The wish for the version. -/
  | version
  /-- A word that is no option. -/
  | word (text : String)
  /-- The argument `--`. -/
  | divider
  /-- A word after `--`. -/
  | operand (text : String)
  /-- No meaning. -/
  | unknown
  deriving DecidableEq, Repr

/-- What an option is without its value. -/
inductive Switch where
  /-- A setting. -/
  | setting (s : Setting)
  /-- An option that takes no value. -/
  | flag (t : Token)

/-- The option of a long name. -/
def Switch.ofName? (name : String) : Option Switch :=
  match name with
  | "schema" => some (.setting .schema)
  | "dialect" => some (.setting .dialect)
  | "config" => some (.setting .config)
  | "database-url" => some (.setting .databaseUrl)
  | "format" => some (.setting .format)
  | "verbose" => some (.flag .verbose)
  | "help" => some (.flag .help)
  | "version" => some (.flag .version)
  | _ => none

/-- The option of a letter. -/
def Switch.ofLetter? (letter : Char) : Option Switch :=
  match letter with
  | 's' => some (.setting .schema)
  | 'd' => some (.setting .dialect)
  | 'c' => some (.setting .config)
  | 'f' => some (.setting .format)
  | 'v' => some (.flag .verbose)
  | 'h' => some (.flag .help)
  | 'V' => some (.flag .version)
  | _ => none

/-- What an argument says on its own: tokens, and perhaps a setting whose value
is the next argument. -/
abbrev Reading := List Token × Option Setting

/-- An argument after its two minus signs. -/
def readLong (cs : List Char) : Reading :=
  let name := String.ofList (cs.takeWhile (· != '='))
  match Switch.ofName? name, cs.dropWhile (· != '=') with
  | some (.setting s), _ :: value => ([.set s (String.ofList value) false], none)
  | some (.setting s), [] => ([], some s)
  | some (.flag t), [] => ([t], none)
  | _, _ => ([.unknown], none)

/-- An argument after its minus sign. -/
def readShort : List Char → Reading
  | [] => ([], none)
  | letter :: rest =>
    match Switch.ofLetter? letter with
    | some (.flag t) => ((t :: (readShort rest).1), (readShort rest).2)
    | some (.setting s) =>
      match rest with
      | [] => ([], some s)
      | '=' :: value => ([.set s (String.ofList value) false], none)
      | value => ([.set s (String.ofList value) false], none)
    | none => ([.unknown], none)

/-- What an argument says. -/
def readArgument (arg : String) : Reading :=
  match arg.toList with
  | '-' :: '-' :: cs => readLong cs
  | '-' :: c :: cs => readShort (c :: cs)
  | _ => ([.word arg], none)

/-- Whether an argument can be the value of a setting before it. -/
def isValue (arg : String) : Bool :=
  match arg.toList with
  | '-' :: _ :: _ => false
  | _ => true

/-- The tokens of arguments, of which the first may be the value of a setting. -/
def tokens : Option Setting → List String → List Token
  | none, [] => []
  | some _, [] => [.unknown]
  | some s, arg :: rest => if isValue arg then .set s arg true :: tokens none rest else [.unknown]
  | none, arg :: rest =>
    if arg = "--" then .divider :: rest.map .operand
    else (readArgument arg).1 ++ tokens (readArgument arg).2 rest

/-! ## Requests -/

namespace Request

/-- The request of a command whose tokens have been read. -/
def finish (c : Command) (options : Options) (input : Option String) : Request :=
  match c.takesQuery, input with
  | true, some input => query c input options
  | false, none => plain options
  | _, _ => misuse

/-- The request of the tokens after a command. -/
def ofCommand (c : Command) (outer : Options) (inner : Options) (input : Option String) :
    List Token → Request
  | [] => finish c (inner.within outer) input
  | .set s value _ :: rest =>
    match inner.set? s value with
    | some inner => ofCommand c outer inner input rest
    | none => misuse
  | .verbose :: rest =>
    if inner.verbose then misuse else ofCommand c outer { inner with verbose := true } input rest
  | .help :: _ => help (.command c)
  | .divider :: rest => ofCommand c outer inner input rest
  | .word text :: rest | .operand text :: rest =>
    if c.takesQuery && input.isNone then ofCommand c outer inner (some text) rest else misuse
  | .version :: _ | .unknown :: _ => misuse

/-- The request of the tokens after the word `help`. -/
def ofHelp : List Token → Request
  | [] => help .program
  | [.word text] =>
    match Command.ofName? text with
    | some c => help (.command c)
    | none => if text = "help" then help .help else misuse
  | _ => misuse

/-- The request of a word, which is `help` or a command, and the tokens after it. -/
def ofWord (options : Options) (text : String) (rest : List Token) : Request :=
  if text = "help" then ofHelp rest
  else
    match Command.ofName? text with
    | some c => ofCommand c options {} none rest
    | none => misuse

/-- A request as far as it is for help. -/
def onlyHelp : Request → Request
  | help topic => help topic
  | _ => misuse

/-- The request of the tokens after a setting that cannot be.  A word right after
it may still ask for help. -/
def ofFault (apart : Bool) : List Token → Request
  | .word text :: rest => if apart then (ofWord {} text rest).onlyHelp else misuse
  | _ => misuse

/-- The request of a command line. -/
def ofTokens (options : Options) : List Token → Request
  | .set s value apart :: rest =>
    match options.set? s value with
    | some options => ofTokens options rest
    | none => ofFault apart rest
  | .verbose :: rest =>
    if options.verbose then misuse else ofTokens { options with verbose := true } rest
  | .help :: _ => help .program
  | .version :: _ => version
  | .word text :: rest => ofWord options text rest
  | _ => misuse

/-- The request of the arguments of a program. -/
def ofArguments (args : List String) : Request := ofTokens {} (tokens none args)

end Request

/-! ## Checks -/

example : Request.ofArguments ["-vd=x", "compile", "-", "--schema", "-"] =
    .query .compile "-" { verbose := true, dialect := some "x", schema := some "-" } := by
  decide +kernel

example : Request.ofArguments ["-sa", "explain", "--", "-q", "x"] = .misuse ∧
    Request.ofArguments ["-sa", "explain", "-sb", "--", "-q"] =
      .query .explain "-q" { schema := some "b" } := by
  decide +kernel

example : Request.ofArguments [] = .misuse ∧ Request.ofArguments ["compile"] = .misuse ∧
    Request.ofArguments ["operators", "x"] = .misuse ∧
    Request.ofArguments ["-f", "xml", "operators"] = .misuse := by
  decide +kernel

example : Request.ofArguments ["-f", "xml", "compile", "-h"] = .help (.command .compile) ∧
    Request.ofArguments ["-fxml", "compile", "-h"] = .misuse ∧
    Request.ofArguments ["help", "help"] = .help .help ∧
    Request.ofArguments ["help", "--"] = .misuse := by
  decide +kernel

example : Request.ofArguments ["--version", "x"] = .version ∧
    Request.ofArguments ["exec", "-V", "q"] = .misuse := by
  decide +kernel

end RelQuery.Cli
