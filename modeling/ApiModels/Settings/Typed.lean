import ApiModels.Number.Shortest
import ApiModels.Settings.Basic
import ApiModels.Settings.KeyPath
import ApiModels.Text.Quoted

/-!
# Settings from trees

`Settings.ofSetting` reads the settings from a tree of settings. Keys that are missing take their
defaults and unknown keys are ignored. A simple value of any kind may stand where a text is wanted.
A table may also be given as the list of its values in the order of the fields.
-/

namespace ApiModels

/-! ### Faults -/

/-- What keeps a tree from being settings. -/
inductive SettingFault where
  /-- A value that is no text, in words, with the steps to it and its origin. -/
  | notText (found : String) (steps : List KeyStep) (origin : Option String)
  | wrongType (found : String) (expected : String)
  | wrongLength (length : Nat) (expected : String)
  | missingField (name : String)
  | unknownVariant (type name : String)
  | noVariant (type : String)
  deriving DecidableEq, Repr

/-- A path in words; a point stands between two names. -/
def stepsText : List KeyStep → String
  | [] => ""
  | .name key :: steps =>
    key ++ (match steps with
      | .name _ :: _ => "."
      | _ => "") ++ stepsText steps
  | .index i :: steps => "[" ++ String.ofList (Number.intDigits i) ++ "]" ++ stepsText steps

example : stepsText [.name "a", .name "b", .index 0, .name "c"] = "a.b[0]c" := by decide +kernel

/-- The words for a fault. -/
def SettingFault.message : SettingFault → String
  | .notText found steps origin =>
    "invalid type: " ++ found ++ ", expected a string" ++
      (if steps = [] then "" else " for key `" ++ stepsText steps ++ "`") ++
      (match origin with
        | some origin => " in " ++ origin
        | none => "")
  | .wrongType found expected => "invalid type: " ++ found ++ ", expected " ++ expected
  | .wrongLength length expected =>
    "invalid length " ++ toString length ++ ", expected " ++ expected
  | .missingField name => "missing field `" ++ name ++ "`"
  | .unknownVariant type name => "enum " ++ type ++ " does not have variant constructor " ++ name
  | .noVariant type =>
    "value of enum " ++ type ++
      " should be represented by either string or table with exactly one key"

/-- A fault of a part, as a fault of the whole: the step to the part comes before its steps. -/
def SettingFault.below (step : KeyStep) : SettingFault → SettingFault
  | .notText found steps origin => .notText found (step :: steps) origin
  | fault => fault

/-! ### Values in words -/

/-- How a float is written as a text: without exponent, and without point if it is an integer. -/
def plainLayout : Number.FloatLayout := ⟨none, false, true, .up⟩

/-- A float as a text. -/
def floatText (x : Number.Binary64) : String :=
  if x.isNaN then "NaN"
  else if !x.isFinite then if x.isNegative then "-inf" else "inf"
  else String.ofList (plainLayout.write x)

/-- A float in a message, where a finite one always has a point. -/
def pointedText (x : Number.Binary64) : String :=
  let s := floatText x
  if !x.isFinite || s.contains '.' then s else s ++ ".0"

/-- The words for a value that is not of the wanted type. -/
def Setting.words : Setting → String
  | .nothing _ => "unit value"
  | .bool b => "boolean `" ++ toString b ++ "`"
  | .integer i => "integer `" ++ String.ofList (Number.intDigits i) ++ "`"
  | .float x => "floating point `" ++ pointedText x ++ "`"
  | .text s => "string " ++ Text.quoted s
  | .list _ _ => "sequence"
  | .table _ _ => "map"

/-! ### Reading -/

/-- A reader of settings. -/
abbrev SettingReader (α : Type) := Setting → Except SettingFault α

/-- A text, or a simple value written as one. -/
def settingText : SettingReader String
  | .text s => .ok s
  | .bool b => .ok (toString b)
  | .integer i => .ok (String.ofList (Number.intDigits i))
  | .float x => .ok (floatText x)
  | .nothing origin => .error (.notText "unit value" [] origin)
  | .list origin _ => .error (.notText "sequence" [] origin)
  | .table origin _ => .error (.notText "map" [] origin)

/-- The items of a list from an index on. -/
def settingItems {α : Type} (read : SettingReader α) :
    Nat → List Setting → Except SettingFault (List α)
  | _, [] => .ok []
  | i, item :: items => do
    let first ← (read item).mapError (.below (.index i))
    let rest ← settingItems read (i + 1) items
    return first :: rest

/-- A list. -/
def settingList {α : Type} (read : SettingReader α) : SettingReader (List α)
  | .list _ items => settingItems read 0 items
  | v => .error (.wrongType v.words "a sequence")

/-- The parts of a record: by name, or in the order of its fields. -/
inductive SettingParts where
  | named (entries : Setting.Entries)
  | ordered (items : List Setting)

/-- The parts of a record of the given type. -/
def settingParts (type : String) : SettingReader SettingParts
  | .table _ entries => .ok (.named entries)
  | .list _ items => .ok (.ordered items)
  | v => .error (.wrongType v.words ("struct " ++ type))

/-- A part with the step to it. -/
def SettingParts.get? (parts : SettingParts) (i : Nat) (name : String) :
    Option (KeyStep × Setting) :=
  match parts with
  | .named entries => (entries.lookup name).map fun v => (.name name, v)
  | .ordered items => items[i]?.map fun v => (.index i, v)

/-- The field with the given index and name, if it is there. -/
def SettingParts.field? {α : Type} (parts : SettingParts) (i : Nat) (name : String)
    (read : SettingReader α) : Except SettingFault (Option α) :=
  match parts.get? i name with
  | none => .ok none
  | some (step, v) => ((read v).mapError (.below step)).map some

/-- The field with the given index and name, or its default. -/
def SettingParts.field {α : Type} (parts : SettingParts) (i : Nat) (name : String)
    (read : SettingReader α) (default : α) : Except SettingFault α :=
  (parts.field? i name read).map (·.getD default)

/-- A field that has to be there. -/
def SettingParts.require {α : Type} (parts : SettingParts) (type : String) (size i : Nat)
    (name : String) : Option α → Except SettingFault α
  | some a => .ok a
  | none =>
    match parts with
    | .named _ => .error (.missingField name)
    | .ordered _ =>
      .error (.wrongLength i ("struct " ++ type ++ " with " ++ toString size ++ " elements"))

/-- One of several names, without regard to case: a text, or the only key of a table. -/
def settingVariant {α : Type} (type : String) (known : List (String × α)) : SettingReader α
  | .text s => ofName s
  | .table _ [(name, _)] => ofName name
  | _ => .error (.noVariant type)
where
  /-- The value that a name stands for. -/
  ofName (name : String) : Except SettingFault α :=
    match known.find? fun v => Setting.foldKey v.1 = Setting.foldKey name with
    | some v => .ok v.2
    | none => .error (.unknownVariant type name)

/-- A list of texts. -/
def settingTexts : SettingReader (List String) := settingList settingText

/-- The settings of a pruning. -/
def PruneSettings.ofSetting : SettingReader PruneSettings := fun v => do
  let parts ← settingParts "PruneConfig" v
  return {
    keepPaths := ← parts.field 0 "keep_paths" settingTexts default.keepPaths
    extraSchemes := ← parts.field 1 "extra_security_schemes" settingTexts default.extraSchemes }

/-- A renaming. -/
def Renaming.ofSetting : SettingReader Renaming := fun v => do
  let parts ← settingParts "NameOverride" v
  let old ← parts.field? 0 "from" settingText
  let new ← parts.field? 1 "to" settingText
  return {
    old := ← parts.require "NameOverride" 2 0 "from" old
    new := ← parts.require "NameOverride" 2 1 "to" new }

/-- The settings for names. -/
def NamingSettings.ofSetting : SettingReader NamingSettings := fun v => do
  let parts ← settingParts "NamingConfig" v
  return {
    stripped := ← parts.field 0 "strip_prefixes" settingTexts default.stripped
    vendorTokens := ← parts.field 1 "vendor_tokens" settingTexts default.vendorTokens
    marker := ← parts.field 2 "marker_prefix" settingText default.marker
    renamings := ← parts.field 3 "overrides" (settingList Renaming.ofSetting) default.renamings }

/-- The type names. -/
def TypeNames.ofSetting : SettingReader TypeNames := fun v => do
  let parts ← settingParts "TypeMappings" v
  return {
    string := ← parts.field 0 "string" settingText default.string
    integer := ← parts.field 1 "integer" settingText default.integer
    int64 := ← parts.field 2 "int64" settingText default.int64
    number := ← parts.field 3 "number" settingText default.number
    float := ← parts.field 4 "float" settingText default.float
    boolean := ← parts.field 5 "boolean" settingText default.boolean
    datetime := ← parts.field 6 "datetime" settingText default.datetime
    uri := ← parts.field 7 "uri" settingText default.uri
    any := ← parts.field 8 "any" settingText default.any }

/-- The rendering. -/
def RenderProfile.ofSetting : SettingReader RenderProfile := fun v => do
  let parts ← settingParts "RenderProfile" v
  return {
    language := ← parts.field 0 "language" (settingVariant "Language" Language.known)
      default.language
    types := ← parts.field 1 "types" TypeNames.ofSetting default.types
    equatableConformances := ← parts.field 2 "equatable_conformances" settingTexts
      default.equatableConformances
    codableConformances := ← parts.field 3 "codable_conformances" settingTexts
      default.codableConformances
    enumConformances := ← parts.field 4 "enum_conformances" settingTexts default.enumConformances
    digitCaseStart := ← parts.field 5 "digit_case_prefix" settingText default.digitCaseStart
    emptyCase := ← parts.field 6 "empty_case_identifier" settingText default.emptyCase }

/-- All settings. -/
def Settings.ofSetting : SettingReader Settings := fun v => do
  let parts ← settingParts "GeneratorConfig" v
  return {
    prune := ← parts.field 0 "prune" PruneSettings.ofSetting default.prune
    naming := ← parts.field 1 "naming" NamingSettings.ofSetting default.naming
    render := ← parts.field 2 "render" RenderProfile.ofSetting default.render }

end ApiModels
