import AddressSpace.Config.Settings
import AddressSpace.Failure
import AddressSpace.Files.Access

/-!
# The settings file

Settings live in a TOML file. A missing file gives the defaults; a file that cannot be read
or parsed is a failure that names the path. Saving makes the directories above the file.

* `Settings.load` — the settings at a path;
* `Settings.save` — write the settings to a path.
-/

namespace AddressSpace

namespace Settings

variable {m : Type → Type} [Monad m] [FileAccess m]

/-- The settings stored at `path`: the defaults when nothing is there. -/
def load (path : String) : m (Except Failure Settings) := do
  if !(← FileAccess.pathExists path) then return .ok {}
  match ← FileAccess.readText path with
  | .error e => pure (.error (.other ("Failed to read config file " ++ path) [e.message]))
  | .ok text =>
    match ofToml text with
    | .error d => pure (.error (.other ("Failed to parse config file " ++ path) [d.message]))
    | .ok s => pure (.ok s)

/-- Write the settings to `path`, making the directories above it first. -/
def save (s : Settings) (path : String) : m (Except Failure Unit) := do
  if let some p := Path.ofText? path then
    if let .error e ← FileAccess.createDirAll p.parent.text then
      return .error (.other e.message [])
  match ← FileAccess.writeText path s.toToml with
  | .error e => pure (.error (.other ("Failed to write config file " ++ path) [e.message]))
  | .ok () => pure (.ok ())

end Settings

end AddressSpace
