import CopyEditor.Text.Blank
import CopyEditor.Text.LetterCase

/-!
Settings, read from lines of the form `key=value`. Of several lines for one key the last one counts,
and the first line that cannot be read is the error.
-/

set_option autoImplicit false
set_option relaxedAutoImplicit false

namespace CopyEditor

/-- What kind of file a name is taken for. -/
inductive FileKind where
  | scenario
  | catalog
  deriving DecidableEq, Repr

structure Config where
  scenarioExtensions : List Text := [".ks".toList]
  catalogExtensions : List Text := [".po".toList]
  color : Bool := true
  checkNames : Bool := false
  encoding : Text := "utf-8".toList
  deriving DecidableEq, Repr

inductive ConfigError where
  | expectedAssignment (lineNumber : Nat) (line : Text)
  | invalidFlag (key value : Text)
  deriving DecidableEq, Repr

namespace ConfigError

def message : ConfigError → Text
  | expectedAssignment lineNumber line =>
    "Expected key=value on line ".toList ++ Text.ofNat lineNumber ++ ", got '".toList ++ line ++
      "'".toList
  | invalidFlag key value =>
    "Invalid value '".toList ++ value ++ "' for '".toList ++ key ++ "', expected 0 or 1".toList

end ConfigError

namespace Config

/-- Extensions between commas, in lowercase and with their full stop. -/
def parseExtensions (value : Text) : List Text :=
  (value.splitOn ',').filterMap fun piece ↦
    match Text.lower (Text.trim piece) with
    | [] => none
    | '.' :: rest => some ('.' :: rest)
    | ext => some ('.' :: ext)

def parseFlag (key value : Text) : Except ConfigError Bool :=
  if value = ['0'] then .ok false
  else if value = ['1'] then .ok true
  else .error (.invalidFlag key value)

/-- Assigns one setting; a key that is not known gives nothing. -/
def assign (config : Config) (key value : Text) : Except ConfigError (Option Config) :=
  if key = "scenario_extensions".toList then
    .ok (some { config with scenarioExtensions := parseExtensions value })
  else if key = "translation_extensions".toList then
    .ok (some { config with catalogExtensions := parseExtensions value })
  else if key = "color".toList then
    (parseFlag key value).map fun flag ↦ some { config with color := flag }
  else if key = "check_names".toList then
    (parseFlag key value).map fun flag ↦ some { config with checkNames := flag }
  else if key = "encoding".toList then
    .ok (some { config with encoding := value })
  else .ok none

/-- Blank lines and lines that start with `#` or `;` say nothing. -/
def isSilent (trimmed : Text) : Bool := trimmed.head?.all fun c ↦ c == '#' || c == ';'

/-- A configuration, and the unknown keys in the order in which they came. -/
structure Loaded where
  config : Config
  unknownKeys : List Text
  deriving DecidableEq, Repr

def readLines (loaded : Loaded) (lineNumber : Nat) : List Text → Except ConfigError Loaded
  | [] => .ok loaded
  | line :: rest =>
    let line := line.trim
    if isSilent line then readLines loaded (lineNumber + 1) rest
    else match line.cutAt? '=' with
      | none => .error (.expectedAssignment lineNumber line)
      | some (left, right) =>
        let key := left.trim
        match loaded.config.assign key right.trim with
        | .error fault => .error fault
        | .ok (some config) => readLines { loaded with config } (lineNumber + 1) rest
        | .ok none =>
          readLines { loaded with unknownKeys := loaded.unknownKeys ++ [key] } (lineNumber + 1) rest

def ofText (text : Text) : Except ConfigError Loaded :=
  readLines ⟨{}, []⟩ 1 (text.splitOn '\n')

/-- One line about all unknown keys, or nothing. -/
def Loaded.notice (loaded : Loaded) : Text :=
  if loaded.unknownKeys.isEmpty then []
  else
    "Ignoring unknown config keys: ".toList ++ Text.joinWith ", ".toList loaded.unknownKeys ++
      ['\n']

/-- A name in any case is known by its extension; scenarios come first. -/
def fileKind? (config : Config) (name : Text) : Option FileKind :=
  let name := name.lower
  if config.scenarioExtensions.any name.endsWith then some .scenario
  else if config.catalogExtensions.any name.endsWith then some .catalog
  else none

end Config

end CopyEditor
