import ApiModels.Files.Basic
import ApiModels.Json.Reader
import ApiModels.Settings.Environment
import ApiModels.Settings.Typed
import ApiModels.Toml.Reader

/-!
# Loading settings

Settings are loaded from several sources, of which a later one counts more than an earlier one: the
files at the usual places, as far as they are there, a file that is asked for, and the environment
(`SettingsSource.all`).
-/

namespace ApiModels

/-- Why settings could not be loaded. -/
inductive SettingsFault where
  | brokenToml (file : Option String)
  | brokenJson (fault : Json.LocatedFault) (file : String)
  | rootNotTable (found : String) (file : Option String)
  | unreadable (fault : FileFault)
  | unknownFormat (path : String)
  | notFound (path : String)
  | setting (fault : SettingFault)
  deriving DecidableEq, Repr

/-- The words for a fault. -/
def SettingsFault.message : SettingsFault → String
  | .brokenToml none => "TOML parse error"
  | .brokenToml (some file) => "TOML parse error in " ++ file
  | .brokenJson fault file => fault.message ++ " in " ++ file
  | .rootNotTable found none => "invalid type: " ++ found ++ ", expected a map"
  | .rootNotTable found (some file) =>
    "invalid type: " ++ found ++ ", expected a map in " ++ file ++ " in " ++ file
  | .unreadable fault => fault.message
  | .unknownFormat path =>
    "configuration file \"" ++ path ++ "\" is not of a registered file format"
  | .notFound path => "configuration file \"" ++ path ++ "\" not found"
  | .setting fault => fault.message

/-! ### Texts -/

/-- The formats of settings files. -/
inductive SettingsFormat where
  | toml
  | json
  deriving DecidableEq, Repr

/-- The formats by the endings of file names. -/
def SettingsFormat.known : List (String × SettingsFormat) := [("toml", .toml), ("json", .json)]

/-- The words for the value of a whole text that is no table. -/
def rootWords : Setting → String
  | .integer i => "64-bit integer `" ++ String.ofList (Number.intDigits i) ++ "`"
  | .float x => "floating point `" ++ floatText x ++ "`"
  | v => v.words

/-- The entries of the value of a whole text, which has to be a table. -/
def rootEntries (file : Option String) : Setting → Except SettingsFault Setting.Entries
  | .table _ entries => .ok entries
  | v => .error (.rootNotTable (rootWords v) file)

/-- The entries of a TOML text. -/
def tomlEntries (file : Option String) (s : String) : Except SettingsFault Setting.Entries :=
  match Toml.readSettled s with
  | some root => rootEntries file (Setting.ofToml file root)
  | none => .error (.brokenToml file)

/-- The entries of a JSON text. -/
def jsonEntries (file : String) (s : String) : Except SettingsFault Setting.Entries :=
  match Json.read s with
  | .error fault => .error (.brokenJson fault file)
  | .ok value => rootEntries (some file) (Setting.ofJson (some file) value.canonical)

/-! ### Files -/

/-- A file of settings. -/
structure SettingsFile where
  /-- The path of the file, without segments that say nothing. -/
  path : String
  format : SettingsFormat
  text : String
  deriving DecidableEq, Repr

/-- The file of settings with the given path. -/
def settingsFile (files : Files) (path : String) (format : SettingsFormat) :
    Except SettingsFault SettingsFile :=
  match files.readText path with
  | .ok text => .ok ⟨Path.normalized path, format, text⟩
  | .error fault => .error (.unreadable fault)

/-- A path with an ending that names a format. -/
def pathWithEnding (path ending : String) : String :=
  String.ofList (Path.dropEnd path.toList.reverse).reverse ++ "." ++ ending

/-- The path of the first file that is there under the given path with an ending that names a
format. -/
def settingsBeside? (files : Files) (path : String) : Option (String × SettingsFormat) :=
  if (Path.fileName? path).isNone then none
  else (SettingsFormat.known.map fun (ending, format) => (pathWithEnding path ending, format)).find?
    fun (path, _) => files.isFile path

/-- The paths of all files that a path of settings may name. -/
def settingsPaths (path : String) : List String :=
  path :: SettingsFormat.known.map fun (ending, _) => pathWithEnding path ending

/-- The file of settings that a path names; the ending of its name may be left out. -/
def findSettings (files : Files) (path : String) : Except SettingsFault SettingsFile :=
  if files.isFile path then
    match SettingsFormat.known.lookup ((Path.extension? path).getD "") with
    | some format => settingsFile files path format
    | none => .error (.unknownFormat path)
  else
    match settingsBeside? files path with
    | some (path, format) => settingsFile files path format
    | none => .error (.notFound path)

/-- The entries of a file of settings. -/
def SettingsFile.entries (file : SettingsFile) : Except SettingsFault Setting.Entries :=
  match file.format with
  | .toml => tomlEntries (some file.path) file.text
  | .json => jsonEntries file.path file.text

/-! ### Sources -/

/-- Where settings come from. -/
inductive SettingsSource where
  /-- A file that may be missing, or be no text. -/
  | optional (path : String)
  /-- A file that has to be there. -/
  | required (path : String)
  | environment (env : Environment)

/-- The files that are looked for. -/
def SettingsSource.places : List String :=
  ["modelgen.toml", ".modelgen.toml", "config/modelgen.toml"]

/-- All sources, from the one that counts least to the one that counts most. -/
def SettingsSource.all (path : Option String) (env : Environment) : List SettingsSource :=
  places.map .optional ++ path.toList.map .required ++ [.environment env]

/-- The entries that a source gives. -/
def SettingsSource.entries (files : Files) : SettingsSource → Except SettingsFault Setting.Entries
  | .optional path =>
    match findSettings files path with
    | .ok found => found.entries
    | .error _ => .ok []
  | .required path => findSettings files path >>= SettingsFile.entries
  | .environment env => .ok env.entries

/-- The settings of several sources, laid over one another. -/
def Settings.ofSources (files : Files) (sources : List SettingsSource) :
    Except SettingsFault Settings := do
  let root ← sources.foldlM (fun root source => return root.overlay (← source.entries files))
    Setting.emptyTable
  (Settings.ofSetting root).mapError .setting

/-- The settings that apply among the given files, with an explicit file if one is named. -/
def Settings.load (files : Files) (env : Environment) (path : Option String) :
    Except SettingsFault Settings :=
  ofSources files (SettingsSource.all path env)

/-- The settings of a TOML text. -/
def Settings.ofToml (s : String) : Except SettingsFault Settings := do
  let entries ← tomlEntries none s
  (Settings.ofSetting (Setting.emptyTable.overlay entries)).mapError .setting

end ApiModels
