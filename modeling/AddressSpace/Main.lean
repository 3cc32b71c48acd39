import AddressSpace.CommandLine.Program

/-!
# The `uaspace` executable

The program on a real machine: its arguments and environment come from the process, its
files from the file system, and its outcome goes to the standard streams and the exit
status.

* `osErrorOf` — the failure an operating-system error stands for, by its number;
* the `FileAccess` instance of `IO`;
* `main`.
-/

namespace AddressSpace.CommandLine

/-- The operating system's number and wording of an error, when it has them. -/
def osDetails : IO.Error → Option (UInt32 × String)
  | .alreadyExists _ c d | .otherError c d | .resourceBusy c d | .resourceVanished c d
  | .unsupportedOperation c d | .hardwareFault c d | .unsatisfiedConstraints c d
  | .illegalOperation c d | .protocolError c d | .timeExpired c d | .interrupted _ c d
  | .noFileOrDirectory _ c d | .invalidArgument _ c d | .permissionDenied _ c d
  | .resourceExhausted _ c d | .inappropriateType _ c d | .noSuchThing _ c d => some (c, d)
  | _ => none

/-- The failure an operating-system error stands for. -/
def osErrorOf (e : IO.Error) : OsError :=
  match osDetails e with
  | some (2, _) => .notFound
  | some (17, _) => .alreadyExists
  | some (20, _) => .notADirectory
  | some (21, _) => .isADirectory
  | some (36, _) => .nameTooLong
  | some (c, d) => .other (d ++ " (os error " ++ Numeral.decimal c.toNat ++ ")")
  | none => .other (toString e)

/-- Run a file operation, keeping its failure as a value. -/
def attempt {α : Type} (act : IO α) : IO (Except OsError α) := do
  try pure (.ok (← act)) catch e => pure (.error (osErrorOf e))

instance : FileAccess IO where
  stat s := do
    -- a file that may not be read still exists
    try
      let _ ← IO.FS.readBinFile s
      pure (.ok .file)
    catch e =>
      match osDetails e, osErrorOf e with
      | some (13, _), _ => pure (.ok .file)
      | _, .isADirectory => pure (.ok .directory)
      | _, err => pure (.error err)
  readText s := do
    match ← attempt (IO.FS.readBinFile s) with
    | .ok bytes =>
      match String.fromUTF8? bytes with
      | some text => pure (.ok text)
      | none => pure (.error (.other "stream did not contain valid UTF-8"))
    | .error e => pure (.error e)
  writeText s text := attempt (IO.FS.writeFile s text)
  makeDir s := attempt (IO.FS.createDir s)

/-- The environment variables the program reads, as the process has them. -/
def processEnvironment : IO Environment := do
  let names := [settingsVariable, "XDG_CONFIG_HOME", "HOME"]
  let vars ← names.filterMapM fun n => do pure ((← IO.getEnv n).map fun v => (n, v))
  pure ⟨vars⟩

end AddressSpace.CommandLine

open AddressSpace.CommandLine in
/-- Run the program and report its outcome. -/
def main (args : List String) : IO UInt32 := do
  let outcome ← Program.run (← processEnvironment) args
  IO.print outcome.stdout
  IO.eprint outcome.stderr
  pure outcome.exitCode.toUInt32
