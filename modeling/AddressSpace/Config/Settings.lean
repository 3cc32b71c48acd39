import AddressSpace.Config.Toml

/-!
# Command-line settings

The settings file holds two keys: whether the standard namespace gets the root folder's
attributes, and the output format used when none is asked for.

* `Settings` with its defaults (`root_attributes = true`, `format = "table"`);
* `Settings.get?` and `Settings.set` by key name; `set` accepts exactly `true` or `false`
  for `root_attributes` and exactly `table` or `json` for `format`;
* `Settings.toToml` — the text written to the file;
* `Settings.ofToml` — the settings a TOML document gives: missing keys keep their
  defaults, unknown keys are ignored, and `format` is any string.
-/

namespace AddressSpace

/-- Why a key could not be set. -/
inductive SettingError where
  /-- No setting has this name. -/
  | unknownKey (key : String)
  /-- The setting `root_attributes` takes `true` or `false` only. -/
  | notABoolean (value : String)
  /-- The setting `format` takes `table` or `json` only. -/
  | unknownFormat (value : String)
deriving DecidableEq

/-- Why a settings document could not be read. -/
inductive SettingsDocumentError where
  /-- The text is not TOML. -/
  | malformed
  /-- A key holds a value of the wrong type: the key, and the type it needs. -/
  | wrongType (key : String) (expected : String)
deriving DecidableEq

/-- The command line's settings. -/
structure Settings where
  /-- Whether the standard namespace gets the root folder's attributes. -/
  rootAttributes : Bool := true
  /-- The output format when none is asked for; read back unchecked. -/
  format : String := "table"
deriving DecidableEq

namespace Settings

/-- The setting names, in the order they are listed. -/
def keys : List String := ["root_attributes", "format"]

/-- The names of the settings, comma-separated. -/
def keyList : String := ", ".intercalate keys

/-- A setting's value as text, or `none` for an unknown name. -/
def get? (c : Settings) : String → Option String
  | "root_attributes" => some (if c.rootAttributes then "true" else "false")
  | "format" => some c.format
  | _ => none

/-- Set a setting from text. -/
def set (c : Settings) (key value : String) : Except SettingError Settings :=
  match key with
  | "root_attributes" =>
    if value = "true" then .ok { c with rootAttributes := true }
    else if value = "false" then .ok { c with rootAttributes := false }
    else .error (.notABoolean value)
  | "format" =>
    if value = "table" ∨ value = "json" then .ok { c with format := value }
    else .error (.unknownFormat value)
  | _ => .error (.unknownKey key)

/-- The settings as a TOML document: one `key = value` line per setting. -/
def toToml (c : Settings) : String :=
  "root_attributes = " ++ (if c.rootAttributes then "true" else "false") ++ "\n" ++
    "format = " ++ Toml.quoteString c.format ++ "\n"

/-- The name of a TOML value's type, as a type error names it. -/
def typeName : Toml.Value → String
  | .string _ => "string"
  | .integer _ => "integer"
  | .float _ => "floating point"
  | .boolean _ => "boolean"
  | .datetime _ => "datetime"
  | .array _ | .tables _ => "sequence"
  | .table _ _ => "map"

/-- The settings of a TOML document's top-level table. -/
def ofTable (t : Toml.Members Toml.Value) : Except SettingsDocumentError Settings := do
  let rootAttributes ← match t.lookup "root_attributes" with
    | none => pure true
    | some (.boolean b) => pure b
    | some _ => throw (.wrongType "root_attributes" "a boolean")
  let format ← match t.lookup "format" with
    | none => pure "table"
    | some (.string s) => pure s
    | some _ => throw (.wrongType "format" "a string")
  pure { rootAttributes, format }

/-- The settings a TOML text gives. -/
def ofToml (text : String) : Except SettingsDocumentError Settings :=
  match Toml.parse? text with
  | none => .error .malformed
  | some t => ofTable t

end Settings

/-- The sentence that reports a setting that could not be made, and the cause under it. -/
def SettingError.message : SettingError → String
  | .unknownKey k => "Unknown config key: " ++ k ++ " (available: " ++ Settings.keyList ++ ")"
  | .notABoolean v => "root_attributes must be true or false, got '" ++ v ++ "'"
  | .unknownFormat v => "format must be table or json, got '" ++ v ++ "'"

/-- What lies under a setting error: a boolean that did not read names the reason. -/
def SettingError.causes : SettingError → List String
  | .notABoolean _ => ["provided string was not `true` or `false`"]
  | _ => []

/-- The text that says why a settings document did not read. -/
def SettingsDocumentError.message : SettingsDocumentError → String
  | .malformed => "TOML parse error: invalid TOML document"
  | .wrongType k e => "TOML parse error: invalid type for key `" ++ k ++ "`, expected " ++ e

end AddressSpace
