import RelQuery.Cli.Program

/-!
# The command line

The program on the real host.  It reads files and standard input and has no
driver for a database, so every connection fails.
-/

namespace RelQuery.Cli

/-- Why a file cannot be read. -/
def readFailure : IO.Error → String
  | .noFileOrDirectory .. => "No such file or directory (os error 2)"
  | e => toString e

/-- The text of a file. -/
def readPath (path : String) : IO (Except String String) := do
  match ← (IO.FS.readFile path).toBaseIO with
  | .ok text => return .ok text
  | .error e => return .error (readFailure e)

/-- Whether there is something at a path. -/
def isThere (path : String) : IO Bool := do
  match ← (IO.FS.readFile path).toBaseIO with
  | .error (.noFileOrDirectory ..) => return false
  | _ => return true

/-- The text of standard input. -/
def readStandardInput : IO (Except String String) := do
  let input ← IO.getStdin
  match ← (input.readToEnd).toBaseIO with
  | .ok bytes => return .ok bytes
  | .error e => return .error (readFailure e)

/-- The path of the configuration of the user. -/
def userConfigPath : IO (Option String) := do
  match ← IO.getEnv "XDG_CONFIG_HOME", ← IO.getEnv "HOME" with
  | some folder, _ => return some (folder ++ "/relq/config.toml")
  | none, some folder => return some (folder ++ "/.config/relq/config.toml")
  | none, none => return none

/-- The real host. -/
def realHost : IO (Host IO) := do
  return {
    fileText := readPath
    inputText := readStandardInput
    hasFile := isThere
    userConfig := ← userConfigPath
    databaseUrl := ← IO.getEnv "RELQ_DATABASE_URL"
    connect := fun url => return .error (.connection ("no driver for " ++ url)) }

end RelQuery.Cli

/-- Runs the program and prints its output. -/
def main (args : List String) : IO UInt32 := do
  let output ← RelQuery.Cli.run (← RelQuery.Cli.realHost) {} args
  IO.print output.out
  IO.eprint output.err
  return UInt32.ofNat output.code
