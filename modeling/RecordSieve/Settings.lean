import RecordSieve.Failure
import RecordSieve.Text.Utf8
import RecordSieve.Toml.Reader

/-!
# Settings

The defaults and the named lists of conditions that a TOML file can hold. What the file leaves
out keeps its default, and what the settings do not know is ignored.

## Main definitions

* `Settings`, `Settings.ofToml?`: the settings and how they are read;
* `Settings.load`: the settings of a file, or why it has none;
* `Settings.presetConditions`: the conditions of some presets.
-/

namespace RecordSieve

/-- The settings of a run. -/
structure Settings where
  /-- A name for the settings, shown in the log only. -/
  profileName : String := "base"
  /-- Whether one condition is enough. -/
  useOr : Bool := false
  /-- Whether the records that pass are dropped. -/
  reverse : Bool := false
  /-- What stands between two keys. -/
  separator : String := " "
  /-- The named lists of conditions, each name once. -/
  presets : List (String × List String) := []
deriving DecidableEq

namespace Settings

/-! ### Reading -/

/-- The text of a string. -/
def text? : Toml → Option String
  | .string text => some text
  | _ => none

/-- The truth value of a boolean. -/
def flag? : Toml → Option Bool
  | .boolean value => some value
  | _ => none

/-- The texts of an array of strings. -/
def texts? : Toml → Option (List String)
  | .array items => items.mapM text?
  | _ => none

/-- The lists of texts that the entries of a table name. -/
def presets? : Toml → Option (List (String × List String))
  | .table entries => entries.mapM fun (name, value) => (texts? value).map (name, ·)
  | _ => none

/-- The members of a group of settings with the given names. A table gives them by name and an
array by position; a date has none of them, and other values are no group. -/
def members? (names : List String) : Toml → Option (List (String × Toml))
  | .table entries => some entries
  | .array items => some (names.zip items)
  | .moment => some []
  | _ => none

/-- The member with a name as `read` understands it, or the default if it is missing. -/
def member? {α : Type} (members : List (String × Toml)) (name : String)
    (read : Toml → Option α) (default : α) : Option α :=
  match members.lookup name with
  | some value => read value
  | none => some default

/-- The settings that the table of a file holds. -/
def ofToml? (file : Toml) : Option Settings := do
  let defaults : Settings := {}
  let group (members : List (String × Toml)) (name : String) (names : List String) :=
    member? members name (members? names) []
  let members ← members? ["profile_name", "filter", "fields", "presets"] file
  let filter ← group members "filter" ["or", "reverse"]
  let fields ← group members "fields" ["separator"]
  some {
    profileName := ← member? members "profile_name" text? defaults.profileName
    useOr := ← member? filter "or" flag? defaults.useOr
    reverse := ← member? filter "reverse" flag? defaults.reverse
    separator := ← member? fields "separator" text? defaults.separator
    presets := ← member? members "presets" presets? defaults.presets }

end Settings

/-! ### Files -/

/-- A file that was read as text. -/
structure TextFile where
  path : String
  text : List Char
deriving DecidableEq

/-- Why a file gives no settings. -/
inductive SettingsFailure where
  /-- The file cannot be read, or it is not text. -/
  | unreadable (path reason : String)
  /-- The text of the file is not TOML, or a setting has a value of the wrong kind. -/
  | malformed (file : TextFile)
deriving DecidableEq

namespace SettingsFailure

/-- The text of a failure, without its cause. -/
def message : SettingsFailure → String
  | unreadable path _ => "Failed to read config file '" ++ path ++ "'"
  | malformed file => "Failed to parse config file '" ++ file.path ++ "'"

/-- The text of what caused a failure. -/
def cause (wording : Wording) : SettingsFailure → String
  | unreadable _ reason => reason
  | malformed file => wording.settings file.text

/-- The text of a failure, and of what caused it. -/
def chain (wording : Wording) (failure : SettingsFailure) : List String :=
  [failure.message, failure.cause wording]

end SettingsFailure

/-- What a path leads to: the bytes of a file, or the reason why they cannot be read. -/
abbrev FileContent := Except String (List UInt8)

namespace Settings

/-- The settings of a file. -/
def load (path : String) (content : FileContent) : Except SettingsFailure Settings :=
  match content with
  | .error reason => .error (.unreadable path reason)
  | .ok bytes =>
      match Utf8.decode? bytes with
      | none => .error (.unreadable path "stream did not contain valid UTF-8")
      | some text =>
          match (Toml.ofText? text).bind ofToml? with
          | none => .error (.malformed ⟨path, text⟩)
          | some settings => .ok settings

/-! ### Presets -/

/-- The conditions of presets, one list behind the other. The first name that is unknown fails
the whole list. -/
def presetConditions (settings : Settings) (names : List String) :
    Except Failure (List String) := do
  let lists ← names.mapM fun name =>
    match settings.presets.lookup name with
    | some conditions => .ok conditions
    | none => .error (.unknownPreset name)
  pure lists.flatten

end Settings

end RecordSieve
