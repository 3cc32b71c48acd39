/-!
# Command-line grammar

A command line is read one level at a time: the program's own options, then a subcommand
and its options, and so on. A `Level` says which options, positional arguments and
subcommands a level has; `Level.scan` reads its arguments up to the name of a subcommand
and `Level.finish` checks what it found once the levels below are read.

The rules, as the command line applies them:

* `--name value`, `--name=value`, `-x value`, `-xvalue`, `-x=value`; short flags cluster
  (`-vq`), and a short option that takes a value takes the rest of its cluster;
* `--` ends the options: every later argument is positional;
* an argument that starts with `-` is an option, except `-` alone, which is a value; an
  option that waits for its value and meets another option has none, which is refused;
* an option that holds one value, or a flag, given twice at one level is refused;
* a value is checked when the next option is met, when a positional argument follows
  it, or when the level ends;
* the name of a subcommand ends the level wherever it stands, even where a value was
  awaited; `help` there asks for help, on the subcommands it names;
* a level ends with its missing required arguments, and an option given without the
  option it requires, refused.
-/

namespace AddressSpace.CommandLine

/-- What an option does when it is given. -/
inductive Action where
  /-- Present or not; twice at one level is refused. -/
  | flag
  /-- Counts how often it is given. -/
  | count
  /-- Takes one value; twice at one level is refused. -/
  | single
  /-- Takes one value each time, keeping them all. -/
  | repeated
  /-- Asks for help. -/
  | help
  /-- Asks for the version. -/
  | version
deriving DecidableEq

/-- An option of a level. -/
structure OptionSpec where
  /-- The name its values are kept under. -/
  id : String
  /-- The long name, after `--`. -/
  long : String
  /-- The short name, after `-`. -/
  short : Option Char := none
  /-- What it does. -/
  action : Action
  /-- Which values it accepts. -/
  accepts : String → Bool := fun _ => true
  /-- The option it cannot be given without. -/
  requires : Option String := none

/-- A positional argument of a level. -/
structure PositionalSpec where
  /-- The name its values are kept under. -/
  id : String
  /-- Whether the level needs it. -/
  required : Bool := true
  /-- Whether it takes all remaining positional arguments. -/
  many : Bool := false
  /-- Which values it accepts. -/
  accepts : String → Bool := fun _ => true

/-- One level of a command line. -/
structure Level where
  /-- Its options. -/
  options : List OptionSpec
  /-- Its positional arguments, in order. -/
  positionals : List PositionalSpec := []
  /-- Its subcommands, each with the names of its own subcommands. -/
  subcommands : List (String × List String) := []
  /-- Whether a subcommand must be given. -/
  subcommandRequired : Bool := false

/-- Why reading the command line stopped without a command to run. -/
inductive Stop where
  /-- The arguments were refused. -/
  | usage
  /-- Help was asked for. -/
  | help
  /-- The version was asked for. -/
  | version
deriving DecidableEq

/-- Values that wait to be checked: an option's, or a positional argument's. -/
structure Pending where
  /-- The name they are kept under. -/
  id : String
  /-- Which values are accepted. -/
  accepts : String → Bool
  /-- Whether the name may hold one value only. -/
  single : Bool
  /-- Whether they belong to an option, which must get a value. -/
  ofOption : Bool
  /-- The values so far. -/
  values : List String

/-- What has been read of a level. -/
structure Scan where
  /-- Options and positional arguments in the order they were met, with their values. -/
  given : List (String × Option String) := []
  /-- Values that wait to be checked. -/
  pending : Option Pending := none
  /-- Whether `--` has been met. -/
  trailing : Bool := false
  /-- The next positional argument to fill. -/
  position : Nat := 0

namespace Scan

/-- Check the waiting values and keep them. -/
def resolve (s : Scan) : Except Stop Scan :=
  match s.pending with
  | none => .ok s
  | some p =>
    if p.ofOption ∧ p.values.isEmpty then .error .usage
    else if !p.values.all p.accepts then .error .usage
    else if p.single ∧ s.given.any (·.1 = p.id) then .error .usage
    else .ok { s with pending := none, given := s.given ++ p.values.map fun v => (p.id, some v) }

/-- Whether an option waits for its value. -/
def awaitsValue (s : Scan) : Bool :=
  match s.pending with
  | some p => p.ofOption ∧ p.values.isEmpty
  | none => false

/-- Take an option, with the value attached to it if there is one. -/
def react (s : Scan) (o : OptionSpec) (attached : Option String) : Except Stop Scan := do
  let s ← s.resolve
  match o.action with
  | .help => throw .help
  | .version => throw .version
  | .flag =>
    if attached.isSome ∨ s.given.any (·.1 = o.id) then throw .usage
    pure { s with given := s.given ++ [(o.id, none)] }
  | .count =>
    if attached.isSome then throw .usage
    pure { s with given := s.given ++ [(o.id, none)] }
  | .single | .repeated =>
    let p : Pending := ⟨o.id, o.accepts, o.action = .single, true, attached.toList⟩
    match attached with
    | some _ => Scan.resolve { s with pending := some p }
    | none => pure { s with pending := some p }

/-- Take a positional argument. -/
def positional (lvl : Level) (s : Scan) (arg : String) : Except Stop Scan := do
  if s.awaitsValue then
    return { s with pending := s.pending.map fun p => { p with values := [arg] } }
  match lvl.positionals[s.position]? with
  | none => throw .usage
  | some spec =>
    match s.pending with
    | some p =>
      if p.id = spec.id ∧ !p.ofOption then
        return { s with pending := some { p with values := p.values ++ [arg] } }
    | none => pure ()
    let s ← s.resolve
    let p : Pending := ⟨spec.id, spec.accepts, !spec.many, false, [arg]⟩
    pure { s with pending := some p, position := if spec.many then s.position else s.position + 1 }

/-- Take the characters of a short cluster after the `-`. -/
def shorts (lvl : Level) : Scan → List Char → Except Stop Scan
  | s, [] => .ok s
  | s, c :: rest =>
    match lvl.options.find? (·.short = some c) with
    | none => .error .usage
    | some o =>
      if o.action = .single ∨ o.action = .repeated then
        match rest with
        | [] => s.react o none
        | '=' :: value => s.react o (some (String.ofList value))
        | value => s.react o (some (String.ofList value))
      else do
        shorts lvl (← s.react o none) rest

/-- Take a long option: the text after `--`. -/
def long (lvl : Level) (s : Scan) (text : String) : Except Stop Scan :=
  let (name, value) := match text.splitOn "=" with
    | [n] => (n, none)
    | n :: vs => (n, some ("=".intercalate vs))
    | [] => (text, none)
  match lvl.options.find? (·.long = name) with
  | none => .error .usage
  | some o => s.react o value

end Scan

namespace Level

/-- Whether the words after `help` name a subcommand, and perhaps one of its own. -/
def helpTopic (lvl : Level) : List String → Bool
  | [] => true
  | [a] => a = "help" ∨ (lvl.subcommands.lookup a).isSome
  | [a, b] =>
    match lvl.subcommands.lookup a with
    | some subs => !subs.isEmpty ∧ (b = "help" ∨ subs.contains b)
    | none => false
  | _ => false

/-- Read a level's arguments up to the name of a subcommand: what was read, and the
subcommand with the arguments after it. An option that waits for its value takes the next
word that is not an option, even one that names a subcommand. -/
def scan (lvl : Level) : Scan → List String → Except Stop (Scan × Option (String × List String))
  | s, [] => .ok (s, none)
  | s, arg :: rest =>
    if s.trailing ∨ (s.awaitsValue ∧ !(arg.startsWith "-" ∧ arg ≠ "-")) then do
      scan lvl (← s.positional lvl arg) rest
    else if !lvl.subcommands.isEmpty ∧ (arg = "help" ∨ (lvl.subcommands.lookup arg).isSome) then
      if arg = "help" then .error (if lvl.helpTopic rest then .help else .usage)
      else .ok (s, some (arg, rest))
    else if arg = "--" then
      if s.awaitsValue then .error .usage else scan lvl { s with trailing := true } rest
    else if arg.startsWith "--" then do scan lvl (← s.long lvl (arg.drop 2).toString) rest
    else if arg.startsWith "-" ∧ arg ≠ "-" then do scan lvl (← s.shorts lvl (arg.toList.drop 1)) rest
    else do scan lvl (← s.positional lvl arg) rest

/-- Check a level once the levels below it are read: waiting values, required
arguments, options that need others, and a missing subcommand. -/
def finish (lvl : Level) (s : Scan) (hasSubcommand : Bool) : Except Stop (List (String × Option String)) := do
  let s ← s.resolve
  if lvl.positionals.any fun p => p.required ∧ !s.given.any (·.1 = p.id) then throw .usage
  let missesRequired (o : OptionSpec) : Bool :=
    match o.requires with
    | some r => s.given.any (·.1 = o.id) && !s.given.any (·.1 = r)
    | none => false
  if lvl.options.any missesRequired then throw .usage
  if lvl.subcommandRequired ∧ !hasSubcommand then throw .usage
  pure s.given

end Level

/-- The last value given under a name. -/
def lastValue (given : List (String × Option String)) (id : String) : Option String :=
  (given.filterMap fun g => if g.1 = id then g.2 else none).getLast?

/-- All values given under a name, in order. -/
def values (given : List (String × Option String)) (id : String) : List String :=
  given.filterMap fun g => if g.1 = id then g.2 else none

/-- How often a name was given. -/
def occurrences (given : List (String × Option String)) (id : String) : Nat :=
  (given.filter (·.1 = id)).length

end AddressSpace.CommandLine
