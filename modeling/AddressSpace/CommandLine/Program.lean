import AddressSpace.CommandLine.Commands

/-!
# The program

A run of `uaspace`: read the command line, find the settings file, run the command, and
say how it went.

* `Environment` — the variables the program reads;
* `defaultSettingsPath` — `uaspace/config.toml` under the user's configuration
  directory: `XDG_CONFIG_HOME` when it is an absolute path, else `.config` under a
  non-empty `HOME`, else the working directory;
* `Outcome` — exit status, standard output and standard error;
* `Program.run` — refused arguments exit with 2; `config` and `completions` run before
  the settings are read; every other command reads the settings, then runs against the
  standard namespace; a failure exits with 1 and its report on standard error.
-/

namespace AddressSpace.CommandLine

/-- Environment variables, by name. -/
structure Environment where
  /-- The variables that are set, with their values. -/
  vars : List (String × String) := []

/-- A variable's value, if it is set. -/
def Environment.get? (env : Environment) (name : String) : Option String := env.vars.lookup name

/-- The variable that names the settings file. -/
def settingsVariable : String := "UASPACE_CONFIG"

/-- The settings file's name below the configuration directory. -/
def settingsFileName : String := Path.joinText "uaspace" "config.toml"

/-- The user's configuration directory, if the environment gives one. -/
def configDirectory? (env : Environment) : Option String :=
  match env.get? "XDG_CONFIG_HOME" with
  | some x => if x.startsWith "/" then some x else home
  | none => home
where
  /-- The directory `.config` under a non-empty home directory. -/
  home : Option String :=
    match env.get? "HOME" with
    | some h => if h = "" then none else some (Path.joinText h ".config")
    | none => none

/-- Where the settings live when neither the command line nor the environment says. -/
def defaultSettingsPath (env : Environment) : String :=
  Path.joinText ((configDirectory? env).getD ".") settingsFileName

/-- How a run of the program ended. -/
structure Outcome where
  /-- The exit status. -/
  exitCode : Nat
  /-- What was printed on standard output. -/
  stdout : String
  /-- What was printed on standard error. -/
  stderr : String
deriving DecidableEq

/-- The version the program reports. -/
def versionText : String := programName ++ " 0.1.0\n"

/-- The program's help. -/
def helpText : String :=
  "Browse and read an in-memory OPC UA address space\n\n" ++
  "Usage: " ++ programName ++ " [OPTIONS] <COMMAND>\n\n" ++
  "Commands:\n" ++
  "  browse       List the references of a node\n" ++
  "  read         Read attributes of a node\n" ++
  "  write        Write an attribute of a node\n" ++
  "  dump         Print the namespace snapshot as JSON\n" ++
  "  config       Manage configuration\n" ++
  "  completions  Generate shell completions\n" ++
  "  help         Print this message or the help of the given subcommand(s)\n\n" ++
  "Options:\n" ++
  "  -f, --format <FORMAT>   Output format: table, json (defaults to the config value)\n" ++
  "      --config <CONFIG>   Config file path [env: UASPACE_CONFIG=]\n" ++
  "      --no-root-attributes  Build the namespace without root folder attributes\n" ++
  "  -v, --verbose...        Verbosity level (-v, -vv, -vvv)\n" ++
  "  -q, --quiet             Suppress output except errors\n" ++
  "  -h, --help              Print help\n" ++
  "  -V, --version           Print version\n"

/-- What refused arguments print. -/
def usageText : String :=
  "error: the arguments were refused\n\nUsage: " ++ programName ++ " [OPTIONS] <COMMAND>\n\n" ++
    "For more information, try '--help'.\n"

/-- The outcome of a command that printed `out`, or failed. -/
def Outcome.ofResult : Except Failure String → Outcome
  | .ok out => ⟨0, out, ""⟩
  | .error f => ⟨1, "", f.report⟩

variable {m : Type → Type} [Monad m] [FileAccess m]

/-- Run a command once its settings path is known. -/
def Invocation.run (inv : Invocation) (path : String) : m (Except Failure String) :=
  match inv.command with
  | .config action => action.run path
  | .completions sh dir => Command.runCompletions sh dir
  | cmd => do
    match ← Settings.load path with
    | .error f => pure (.error f)
    | .ok s => pure (cmd.runWith (Context.of s inv.format inv.noRootAttributes))

/-- Run the program with these arguments in this environment. -/
def Program.run (env : Environment) (args : List String) : m Outcome :=
  match Invocation.parse args (env.get? settingsVariable) with
  | .error .usage => pure ⟨2, "", usageText⟩
  | .error .help => pure ⟨0, helpText, ""⟩
  | .error .version => pure ⟨0, versionText, ""⟩
  | .ok inv => do
    let path := inv.configPath.getD (defaultSettingsPath env)
    pure (Outcome.ofResult (← inv.run path))

end AddressSpace.CommandLine
