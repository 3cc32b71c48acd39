import AddressSpace.CommandLine.Grammar
import AddressSpace.Text.Numeral

/-!
# The `uaspace` command line

What a call of the program asks for, and how its arguments are read into one.

* `Invocation` — the options that hold at every level (output format, settings path,
  root attributes, verbosity) and the `Command` to run;
* `Command` — `browse`, `read`, `write`, `dump`, `config` with its actions, and
  `completions` for a `Shell`;
* `Invocation.parse` — read a whole command line; an option that holds at every level
  takes the value given at the deepest level, and the settings path comes from the
  environment only where no level names one;
* `Command.parse` — read one command's own arguments, without the options of the levels
  above it.
-/

namespace AddressSpace.CommandLine

-- `^` on naturals and integers is `Nat.pow` and `Int.pow` in this file, ahead of any other
-- power in scope.
attribute [local instance (high)] instPowNat

/-- A shell that completion scripts are made for. -/
inductive Shell where
  | bash
  | elvish
  | fish
  | powershell
  | zsh
deriving DecidableEq

namespace Shell

/-- Every shell, in the order they are listed. -/
def all : List Shell := [.bash, .elvish, .fish, .powershell, .zsh]

/-- The shell's name on the command line. -/
def name : Shell → String
  | .bash => "bash"
  | .elvish => "elvish"
  | .fish => "fish"
  | .powershell => "powershell"
  | .zsh => "zsh"

/-- The shell of a name; names are matched exactly. -/
def ofName? (s : String) : Option Shell := all.find? (·.name = s)

/-- The file a script for the shell is written to, for a program of this name. -/
def fileName (sh : Shell) (program : String) : String :=
  match sh with
  | .bash => program ++ ".bash"
  | .elvish => program ++ ".elv"
  | .fish => program ++ ".fish"
  | .powershell => "_" ++ program ++ ".ps1"
  | .zsh => "_" ++ program

end Shell

/-- What `browse` is given, before any of it is parsed. -/
structure BrowseArguments where
  /-- The node to browse. -/
  node : String
  /-- The direction's name. -/
  direction : String := "forward"
  /-- The reference type to keep, if any. -/
  referenceType : Option String := none
  /-- Whether subtypes of the reference type are kept too. -/
  includeSubtypes : Bool := false
  /-- Names of the target classes to keep. -/
  nodeClasses : List String := []
  /-- Raw class bits to keep, beside the named classes. -/
  mask : Option UInt32 := none
deriving DecidableEq

/-- What `config` is asked to do. -/
inductive ConfigAction where
  /-- Print one setting. -/
  | get (key : String)
  /-- Change one setting and save. -/
  | set (key value : String)
  /-- Print the path and every setting. -/
  | list
  /-- Print the path. -/
  | path
  /-- Write the default settings, over an existing file only when forced. -/
  | init (force : Bool)
deriving DecidableEq

/-- A command of the program. -/
inductive Command where
  /-- List a node's references. -/
  | browse (args : BrowseArguments)
  /-- Read attributes of a node. -/
  | read (node : String) (attributes : List String)
  /-- Write an attribute of a node. -/
  | write (node attributeName value : String)
  /-- Print the namespace as JSON. -/
  | dump
  /-- Look at or change the settings. -/
  | config (action : ConfigAction)
  /-- Make a shell completion script, printed or written into a directory. -/
  | completions (shell : Shell) (outDir : Option String)
deriving DecidableEq

/-- A call of the program: the options of every level, and the command. -/
structure Invocation where
  /-- The output format asked for. -/
  format : Option String := none
  /-- The settings file named on the command line or in the environment. -/
  configPath : Option String := none
  /-- Whether the root folder's attributes are left out. -/
  noRootAttributes : Bool := false
  /-- How often `-v` was given at the level that counts. -/
  verbosity : Nat := 0
  /-- Whether only errors are logged. -/
  quiet : Bool := false
  /-- The command. -/
  command : Command
deriving DecidableEq

/-! ### Levels -/

/-- A 32-bit mask: a 64-bit integer, with optional sign, from 0 to 2^32 - 1. -/
def maskValue? (s : String) : Option UInt32 :=
  (Numeral.signed? (-2 ^ (63 : Nat)) (2 ^ (63 : Nat) - 1) s.toList).bind fun v =>
    if 0 ≤ v ∧ v < 2 ^ (32 : Nat) then some v.toNat.toUInt32 else none

/-- A path may not be empty. -/
def isPath (s : String) : Bool := s ≠ ""

/-- Help, by `-h` or `--help`, at every level. -/
def helpOption : OptionSpec := { id := "help", long := "help", short := some 'h', action := .help }

/-- The options that hold at every level. -/
def globalOptions : List OptionSpec :=
  [{ id := "format", long := "format", short := some 'f', action := .single },
   { id := "config", long := "config", action := .single, accepts := isPath },
   { id := "no_root_attributes", long := "no-root-attributes", action := .flag },
   { id := "verbose", long := "verbose", short := some 'v', action := .count },
   { id := "quiet", long := "quiet", short := some 'q', action := .flag }]

/-- The names of the commands and of the actions of `config`. -/
def commandNames : List (String × List String) :=
  [("browse", []), ("read", []), ("write", []), ("dump", []),
   ("config", ["get", "set", "list", "path", "init"]), ("completions", [])]

/-- The program's own level. -/
def topLevel : Level :=
  { options := globalOptions ++ [helpOption,
      { id := "version", long := "version", short := some 'V', action := .version }],
    subcommands := commandNames, subcommandRequired := true }

/-- A command's own options and positional arguments. -/
def commandLevel : String → Level
  | "browse" =>
    { options := [helpOption,
        { id := "direction", long := "direction", short := some 'd', action := .single },
        { id := "reference_type", long := "reference-type", short := some 'r', action := .single },
        { id := "include_subtypes", long := "include-subtypes", short := some 's', action := .flag,
          requires := some "reference_type" },
        { id := "node_classes", long := "node-class", short := some 'c', action := .repeated },
        { id := "mask", long := "mask", action := .single, accepts := fun s => (maskValue? s).isSome }],
      positionals := [{ id := "node" }] }
  | "read" => { options := [helpOption], positionals := [{ id := "node" }, { id := "attributes", many := true }] }
  | "write" =>
    { options := [helpOption], positionals := [{ id := "node" }, { id := "attribute" }, { id := "value" }] }
  | "config" =>
    { options := [helpOption], subcommands := ["get", "set", "list", "path", "init"].map (·, []),
      subcommandRequired := true }
  | "completions" =>
    { options := [helpOption, { id := "out_dir", long := "out-dir", action := .single, accepts := isPath }],
      positionals := [{ id := "shell", accepts := fun s => (Shell.ofName? s).isSome }] }
  | _ => { options := [helpOption] }

/-- An action of `config`: its own options and positional arguments. -/
def configLevel : String → Level
  | "get" => { options := [helpOption], positionals := [{ id := "key" }] }
  | "set" => { options := [helpOption], positionals := [{ id := "key" }, { id := "value" }] }
  | "init" => { options := [helpOption, { id := "force", long := "force", action := .flag }] }
  | _ => { options := [helpOption] }

/-- A level with the options that hold at every level added. -/
def Level.withGlobals (lvl : Level) : Level := { lvl with options := globalOptions ++ lvl.options }

/-! ### Reading a command line -/

/-- What a level gave: its values by name. -/
abbrev Given := List (String × Option String)

/-- The value of one of a command's positional arguments. -/
def positionalValue (g : Given) (id : String) : String := (lastValue g id).getD ""

/-- The action of `config` named `name`, from what its level gave. -/
def ConfigAction.ofGiven (name : String) (g : Given) : ConfigAction :=
  match name with
  | "get" => .get (positionalValue g "key")
  | "set" => .set (positionalValue g "key") (positionalValue g "value")
  | "list" => .list
  | "path" => .path
  | _ => .init (occurrences g "force" > 0)

/-- The command named `name`, from what its level gave and, for `config`, the action. -/
def Command.ofGiven (name : String) (g : Given) (action : Option (String × Given)) : Command :=
  match name with
  | "browse" =>
    .browse { node := positionalValue g "node",
              direction := (lastValue g "direction").getD "forward",
              referenceType := lastValue g "reference_type",
              includeSubtypes := occurrences g "include_subtypes" > 0,
              nodeClasses := values g "node_classes",
              mask := (lastValue g "mask").bind maskValue? }
  | "read" => .read (positionalValue g "node") (values g "attributes")
  | "write" => .write (positionalValue g "node") (positionalValue g "attribute") (positionalValue g "value")
  | "dump" => .dump
  | "config" =>
    match action with
    | some (a, ag) => .config (ConfigAction.ofGiven a ag)
    | none => .config .list
  | _ =>
    .completions ((Shell.ofName? (positionalValue g "shell")).getD .bash) (lastValue g "out_dir")

/-- Read one level and the levels below it, `below` reading the subcommand: the level's
values and what the levels below gave. -/
def readLevel {α : Type} (lvl : Level) (args : List String) (settingsVar : Option String)
    (below : String → List String → Except Stop α) : Except Stop (Given × Option α) := do
  let (s, sub) ← lvl.scan {} args
  let inner ← match sub with
    | some (name, rest) => some <$> below name rest
    | none => pure none
  let given ← lvl.finish s inner.isSome
  -- the environment stands in for a settings path that this level does not name
  if (lvl.options.any (·.id = "config")) ∧ !given.any (·.1 = "config") then
    if settingsVar = some "" then throw .usage
  pure (given, inner)

/-- The value of an option that holds at every level: the deepest level that names it. -/
def deepest (levels : List Given) (id : String) : Option String :=
  (levels.filterMap fun g => lastValue g id).getLast?

/-- Nothing lies below an action of `config`. -/
def noLevelBelow (_ : String) (_ : List String) : Except Stop Unit := .error .usage

/-- Read an action of `config` and its arguments: its name and its values. -/
def readAction (globals : Bool) (settingsVar : Option String) (name : String) (args : List String) :
    Except Stop (String × Given) := do
  let lvl := if globals then (configLevel name).withGlobals else configLevel name
  let (g, _) ← readLevel lvl args settingsVar noLevelBelow
  pure (name, g)

/-- Read a command and its arguments: its name, its values, and its action if any. -/
def readCommand (settingsVar : Option String) (name : String) (args : List String) :
    Except Stop (String × Given × Option (String × Given)) := do
  let (g, action) ← readLevel (commandLevel name).withGlobals args settingsVar (readAction true settingsVar)
  pure (name, g, action)

/-- Read a whole command line; `settingsVar` is the environment's settings path. -/
def Invocation.parse (args : List String) (settingsVar : Option String) : Except Stop Invocation := do
  let (top, cmd) ← readLevel topLevel args settingsVar (readCommand settingsVar)
  match cmd with
  | none => throw .usage
  | some (name, g, action) =>
    let levels := [top, g] ++ (action.map (·.2)).toList
    pure { format := deepest levels "format",
           configPath := (deepest levels "config").orElse fun _ => settingsVar,
           noRootAttributes := levels.any fun l => occurrences l "no_root_attributes" > 0,
           verbosity := ((levels.map fun l => occurrences l "verbose").filter (· > 0)).getLast?.getD 0,
           quiet := levels.any fun l => occurrences l "quiet" > 0,
           command := Command.ofGiven name g action }

/-- Read a command's own arguments, without the options of the levels above it. -/
def Command.parse (name : String) (args : List String) : Except Stop Command := do
  let (g, action) ← readLevel (commandLevel name) args none (readAction false none)
  pure (Command.ofGiven name g action)

end AddressSpace.CommandLine
