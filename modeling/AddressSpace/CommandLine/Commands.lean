import AddressSpace.CommandLine.Invocation
import AddressSpace.Config.File
import AddressSpace.Standard
import AddressSpace.Output
import AddressSpace.Text.Blank
import AddressSpace.NodeId.Parse

/-!
# Running a command

Each command turns its arguments into requests, runs them against the standard
namespace, and prints one result followed by a line break; or it fails, having printed
nothing.

* `Context` — the namespace and output format a command runs with;
* `BrowseArguments.query`, `readRequests`, `writeRequest` — the requests that arguments
  make: node, reference type and attribute arguments are trimmed of blanks first, class
  names and raw mask bits are OR-ed and then validated;
* `writeValue` — a written value is a boolean, else a 32-bit unsigned number, else a
  32-bit signed one, else the text itself;
* `Command.runWith` — browse, read, write and dump; `ConfigAction.run` and
  `Command.runCompletions` — the commands that work on files only.
-/

namespace AddressSpace.CommandLine

-- `^` on naturals and integers is `Nat.pow` and `Int.pow` in this file, ahead of any other
-- power in scope.
attribute [local instance (high)] instPowNat

/-- What a command runs against. -/
structure Context where
  /-- The namespace. -/
  space : Space
  /-- How results are shown. -/
  format : OutputFormat

/-- The context that settings and options give: the root attributes only if the settings
ask for them and the command line does not refuse them, and the format asked for on the
command line, else the settings' one. -/
def Context.of (s : Settings) (format : Option String) (noRootAttributes : Bool) : Context :=
  ⟨Space.standard (s.rootAttributes && !noRootAttributes), OutputFormat.ofText (format.getD s.format)⟩

/-- A node named by an argument, blanks around it dropped. -/
def nodeArgument (s : String) : Except Failure NodeId :=
  (NodeId.parse (Text.trim s)).mapError .core

/-- The browse query that arguments make. -/
def BrowseArguments.query (a : BrowseArguments) : Except Failure BrowseDescription := do
  let node ← nodeArgument a.node
  let direction ← (BrowseDirection.parse a.direction).mapError .core
  let classes ← (a.nodeClasses.mapM NodeClass.parse).mapError .core
  let mask : NodeClassMask := ⟨(NodeClassMask.ofClasses classes).bits ||| a.mask.getD 0⟩
  (validateMask mask).mapError .validation
  let q : BrowseDescription := { nodeId := node, direction, nodeClassMask := mask }
  match a.referenceType with
  | none => pure q
  | some t => pure { q with referenceTypeId := ← nodeArgument t, includeSubtypes := a.includeSubtypes }

/-- The read requests that arguments make: one per attribute, at most a thousand. -/
def readRequests (node : String) (attributes : List String) : Except Failure (List ReadValueId) := do
  let n ← nodeArgument node
  (validateReadBatch attributes.length).mapError .validation
  attributes.mapM fun a => do
    pure ⟨n, ← (AttributeId.parse (Text.trim a)).mapError .core⟩

/-- The value a written text stands for. -/
def writeValue (text : String) : Variant :=
  if text = "true" then .boolean true
  else if text = "false" then .boolean false
  else match Numeral.unsigned? (2 ^ (32 : Nat)) text.toList with
    | some n => .uint32 n.toUInt32
    | none =>
      match Numeral.signed? (-2 ^ (31 : Nat)) (2 ^ (31 : Nat) - 1) text.toList with
      | some i => .int32 (Int32.ofInt i)
      | none => .string text

/-- The write request that arguments make. -/
def writeRequest (node attributeName value : String) : Except Failure WriteValue := do
  let n ← nodeArgument node
  let a ← (AttributeId.parse (Text.trim attributeName)).mapError .core
  let w : WriteValue := ⟨n, a, .value (writeValue value)⟩
  (validateWriteBatch 1).mapError .validation
  pure w

/-- Run a command that works on the namespace: what it prints. -/
def Command.runWith (ctx : Context) : Command → Except Failure String
  | .browse a => do
    let q ← a.query
    pure (formatReferences (ctx.space.browse q) ctx.format ++ "\n")
  | .read node attributes => do
    let reqs ← readRequests node attributes
    pure (formatValues reqs (ctx.space.read reqs) ctx.format ++ "\n")
  | .write node attributeName value => do
    let w ← writeRequest node attributeName value
    pure (formatStatuses (ctx.space.write [w]) ctx.format ++ "\n")
  | .dump => pure (ctx.space.snapshot.toText ++ "\n")
  | _ => pure ""

variable {m : Type → Type} [Monad m] [FileAccess m]

/-- Run an action of `config` on the settings file at `path`: what it prints. -/
def ConfigAction.run (path : String) : ConfigAction → m (Except Failure String)
  | .get key => do
    match ← Settings.load path with
    | .error f => pure (.error f)
    | .ok s =>
      match s.get? key with
      | some v => pure (.ok (v ++ "\n"))
      | none => pure (.error (.other (SettingError.unknownKey key).message []))
  | .set key value => do
    match ← Settings.load path with
    | .error f => pure (.error f)
    | .ok s =>
      match s.set key value with
      | .error e => pure (.error (.other e.message e.causes))
      | .ok s' =>
        match ← s'.save path with
        | .error f => pure (.error f)
        | .ok () => pure (.ok ("Set " ++ key ++ " = " ++ value ++ "\n"))
  | .list => do
    match ← Settings.load path with
    | .error f => pure (.error f)
    | .ok s =>
      let lines := Settings.keys.map fun k => k ++ " = " ++ (s.get? k).getD "(not set)" ++ "\n"
      pure (.ok ("Config file: " ++ path ++ "\n\n" ++ String.join lines))
  | .path => pure (.ok (path ++ "\n"))
  | .init force => do
    if (← FileAccess.pathExists path) && !force then
      return .error (.other ("Config file already exists at " ++ path ++ ". Use --force to overwrite.") [])
    match ← ({} : Settings).save path with
    | .error f => pure (.error f)
    | .ok () => pure (.ok ("Created config file at " ++ path ++ "\n"))

/-- The program's name, which completion scripts complete. -/
def programName : String := "uaspace"

/-- A completion script: the commands, and the actions of `config`. -/
def completionScript (sh : Shell) : String :=
  let words := " ".intercalate ((commandNames.map (·.1)) ++ ["help"])
  let actions := " ".intercalate ["get", "set", "list", "path", "init", "help"]
  match sh with
  | .bash =>
    "_" ++ programName ++ "() \x7b\n  local cur=\"$\x7bCOMP_WORDS[COMP_CWORD]\x7d\"\n" ++
      "  if [ \"$\x7bCOMP_WORDS[1]\x7d\" = config ]; then\n" ++
      "    COMPREPLY=($(compgen -W \"" ++ actions ++ "\" -- \"$cur\"))\n  else\n" ++
      "    COMPREPLY=($(compgen -W \"" ++ words ++ "\" -- \"$cur\"))\n  fi\n\x7d\n" ++
      "complete -F _" ++ programName ++ " " ++ programName ++ "\n"
  | .zsh => "#compdef " ++ programName ++ "\n_arguments '1: :(" ++ words ++ ")'\n"
  | .fish =>
    "complete -c " ++ programName ++ " -n '__fish_use_subcommand' -a '" ++ words ++ "'\n" ++
      "complete -c " ++ programName ++ " -n '__fish_seen_subcommand_from config' -a '" ++ actions ++ "'\n"
  | .powershell =>
    "Register-ArgumentCompleter -Native -CommandName '" ++ programName ++ "' -ScriptBlock \x7b\n" ++
      "  param($wordToComplete)\n  '" ++ words ++ "'.Split(' ') | Where-Object \x7b $_ -like \"$wordToComplete*\" \x7d\n\x7d\n"
  | .elvish =>
    "set edit:completion:arg-completer[" ++ programName ++ "] = \x7b|@words|\n  put " ++ words ++ "\n\x7d\n"

/-- Make a completion script: printed, or written into a directory made for it. -/
def Command.runCompletions (sh : Shell) : Option String → m (Except Failure String)
  | none => pure (.ok (completionScript sh))
  | some dir => do
    if let .error e ← FileAccess.createDirAll dir then
      return .error (.other e.message [])
    match ← FileAccess.writeText (Path.joinText dir (sh.fileName programName)) (completionScript sh) with
    | .error e => pure (.error (.other e.message []))
    | .ok () => pure (.ok "")

end AddressSpace.CommandLine
