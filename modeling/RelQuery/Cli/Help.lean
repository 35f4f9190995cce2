import RelQuery.Cli.Arguments
import RelQuery.Cli.Report
import RelQuery.Text.Terminal

/-!
# Help

What the program says about itself: its version, and help on the program, on
one command or on help.  The lines of the options are the same for the program
and its commands.  They have the names of the options in bold and the value of
the database variable as it is, and of the whole only what a terminal shows is
printed (`helpText`).
-/

namespace RelQuery.Cli

/-- The line of the version. -/
def versionLine : String := "relq 0.3.0"

/-- What a command does. -/
def Command.summary : Command → String
  | compile => "Print the SQL for a query document"
  | exec => "Compile a query document and run it against the database"
  | explain => "Show how a query document was understood, then its SQL"
  | operators => "Show the condition operator reference"

/-- How wide an option is written. -/
def optionWidth : Nat := 33

/-- A text that starts in the column of the entries, with its further lines in
the same column. -/
def inEntryColumn (s : String) : String :=
  let indentation := '\n' :: List.replicate (optionWidth + 4) ' '
  String.ofList (s.toList.flatMap fun c => if c = '\n' then indentation else [c])

/-- The entry of the database setting, with the value of its variable. -/
def databaseHelp (url : Option String) : String :=
  inEntryColumn ("Database connection URL [env: RELQ_DATABASE_URL=" ++ url.getD "" ++ "]")

/-- An option and its entry. -/
structure OptionHelp where
  /-- The letter, if there is one. -/
  letter : Option String
  /-- The long name. -/
  name : String
  /-- The name of the value, if the option takes one. -/
  value : Option String
  /-- The entry. -/
  entry : String

/-- How an option is written, its names in some face. -/
def OptionHelp.usage (o : OptionHelp) (face : String → String) : String :=
  (o.letter.elim "    " fun letter => face ("-" ++ letter) ++ ", ") ++ face ("--" ++ o.name)
    ++ o.value.elim "" fun value => " <" ++ value ++ ">"

/-- The line of an option.  The bold face takes no room. -/
def OptionHelp.line (o : OptionHelp) : String :=
  let gap := optionWidth - (o.usage id).length
  "  " ++ o.usage Text.bold ++ String.ofList (List.replicate gap ' ') ++ "  " ++ o.entry

/-- The lines of the options. -/
def optionLines (url : Option String) : List String :=
  [OptionHelp.mk "s" "schema" "SCHEMA"
      "Schema file (TOML or JSON) with model sources, keys and field types",
    ⟨"d", "dialect", "DIALECT", "SQL dialect: ansi, mysql, sqlserver or plain"⟩,
    ⟨"c", "config", "CONFIG", "Config file (defaults to ./relq.toml, then the user config dir)"⟩,
    ⟨none, "database-url", "DATABASE_URL", databaseHelp url⟩,
    ⟨"f", "format", "FORMAT", "Output format [default: table] [possible values: table, json]"⟩,
    ⟨"v", "verbose", none, "Verbose output"⟩,
    ⟨"h", "help", none, "Print help"⟩].map OptionHelp.line

/-- The line of a command in a list of commands. -/
def commandLine (name summary : String) : String := "  " ++ padded 9 name ++ "  " ++ summary

/-- The lines of the help on the program. -/
def programHelp (url : Option String) : List String :=
  ["Relational query compiler: JSON query documents in, SQL out", "",
      "Usage: relq [OPTIONS] <COMMAND>", "", "Commands:"]
    ++ Command.all.map (fun c => commandLine c.name c.summary)
    ++ [commandLine "help" "Print this message or the help of the given subcommand(s)", "",
      "Options:"]
    ++ optionLines url
    ++ [OptionHelp.line ⟨"V", "version", none, "Print version"⟩, "", "EXAMPLES:",
      "    relq compile query.json --schema schema.toml --dialect mysql",
      "    relq exec query.json --database-url sqlite://blog.db --format json",
      "    relq explain query.json"]

/-- The lines of the help on a command. -/
def commandHelp (c : Command) (url : Option String) : List String :=
  let arguments :=
    if c.takesQuery then
      ["Arguments:", "  <QUERY>  Query file, \x60-\x60 for stdin, or an inline JSON document", ""]
    else []
  let usage := "Usage: relq " ++ c.name ++ " [OPTIONS]" ++ (if c.takesQuery then " <QUERY>" else "")
  [c.summary, "", usage, ""]
    ++ arguments ++ "Options:" :: optionLines url

/-- The lines of the help on help. -/
def helpOnHelp : List String :=
  ["Print this message or the help of the given subcommand(s)", "",
    "Usage: relq help [COMMAND]...", "", "Arguments:",
    "  [COMMAND]...  Print help for the subcommand(s)"]

/-- The lines of the help on a topic. -/
def helpLines (topic : Topic) (url : Option String) : List String :=
  match topic with
  | .program => programHelp url
  | .command c => commandHelp c url
  | .help => helpOnHelp

/-- The help on a topic, as a terminal shows it. -/
def helpText (topic : Topic) (url : Option String) : String :=
  Text.shown (unlines (helpLines topic url))

end RelQuery.Cli
