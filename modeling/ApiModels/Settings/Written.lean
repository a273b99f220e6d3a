import ApiModels.Json.Decode
import ApiModels.Settings.Basic

/-!
# Settings as JSON

Settings are written with all their fields in a fixed order. In what is read every field may be
missing, except the two names of a renaming; a missing field takes its default.
-/

namespace ApiModels

open Json

/-! ### Writing -/

/-- The settings of a pruning as a JSON value. -/
def PruneSettings.toJson (s : PruneSettings) : Json :=
  .object [("keep_paths", .ofTexts s.keepPaths),
    ("extra_security_schemes", .ofTexts s.extraSchemes)]

/-- A renaming as a JSON value. -/
def Renaming.toJson (r : Renaming) : Json :=
  .object [("from", .text r.old), ("to", .text r.new)]

/-- The settings for names as a JSON value. -/
def NamingSettings.toJson (s : NamingSettings) : Json :=
  .object [("strip_prefixes", .ofTexts s.stripped), ("vendor_tokens", .ofTexts s.vendorTokens),
    ("marker_prefix", .text s.marker), ("overrides", .list (s.renamings.map Renaming.toJson))]

/-- The type names as a JSON value. -/
def TypeNames.toJson (t : TypeNames) : Json :=
  .object [("string", .text t.string), ("integer", .text t.integer), ("int64", .text t.int64),
    ("number", .text t.number), ("float", .text t.float), ("boolean", .text t.boolean),
    ("datetime", .text t.datetime), ("uri", .text t.uri), ("any", .text t.any)]

/-- The rendering as a JSON value. -/
def RenderProfile.toJson (p : RenderProfile) : Json :=
  .object [("language", .text p.language.name), ("types", p.types.toJson),
    ("equatable_conformances", .ofTexts p.equatableConformances),
    ("codable_conformances", .ofTexts p.codableConformances),
    ("enum_conformances", .ofTexts p.enumConformances),
    ("digit_case_prefix", .text p.digitCaseStart),
    ("empty_case_identifier", .text p.emptyCase)]

/-- All settings as a JSON value. -/
def Settings.toJson (s : Settings) : Json :=
  .object [("prune", s.prune.toJson), ("naming", s.naming.toJson), ("render", s.render.toJson)]

/-! ### Reading -/

/-- A list of strings. -/
def asTexts : Decoder (List String) := asList asText

/-- The settings of a pruning. -/
def PruneSettings.record : Record PruneSettings PruneSettings where
  name := "PruneConfig"
  blank := .default
  fields := [
    defaultField "keep_paths" (fun s v => { s with keepPaths := v }) asTexts,
    defaultField "extra_security_schemes" (fun s v => { s with extraSchemes := v }) asTexts]
  finish := .ok

/-- A renaming of which the names may still be missing. -/
structure RenamingDraft where
  old : Option String
  new : Option String

/-- A renaming. -/
def Renaming.record : Record RenamingDraft Renaming where
  name := "NameOverride"
  blank := ⟨none, none⟩
  fields := [
    requiredField "from" (·.old) (fun d v => { d with old := some v }) asText,
    requiredField "to" (·.new) (fun d v => { d with new := some v }) asText]
  finish d := do return ⟨← required "from" d.old, ← required "to" d.new⟩

/-- The settings for names. -/
def NamingSettings.record : Record NamingSettings NamingSettings where
  name := "NamingConfig"
  blank := .default
  fields := [
    defaultField "strip_prefixes" (fun s v => { s with stripped := v }) asTexts,
    defaultField "vendor_tokens" (fun s v => { s with vendorTokens := v }) asTexts,
    defaultField "marker_prefix" (fun s v => { s with marker := v }) asText,
    defaultField "overrides" (fun s v => { s with renamings := v })
      (asList (Renaming.record.decode .document))]
  finish := .ok

/-- The type names. -/
def TypeNames.record : Record TypeNames TypeNames where
  name := "TypeMappings"
  blank := .default
  fields := [
    defaultField "string" (fun t v => { t with string := v }) asText,
    defaultField "integer" (fun t v => { t with integer := v }) asText,
    defaultField "int64" (fun t v => { t with int64 := v }) asText,
    defaultField "number" (fun t v => { t with number := v }) asText,
    defaultField "float" (fun t v => { t with float := v }) asText,
    defaultField "boolean" (fun t v => { t with boolean := v }) asText,
    defaultField "datetime" (fun t v => { t with datetime := v }) asText,
    defaultField "uri" (fun t v => { t with uri := v }) asText,
    defaultField "any" (fun t v => { t with any := v }) asText]
  finish := .ok

/-- The rendering. -/
def RenderProfile.record : Record RenderProfile RenderProfile where
  name := "RenderProfile"
  blank := .default
  fields := [
    defaultField "language" (fun p v => { p with language := v })
      (asVariant .document Language.known),
    defaultField "types" (fun p v => { p with types := v }) (TypeNames.record.decode .document),
    defaultField "equatable_conformances" (fun p v => { p with equatableConformances := v })
      asTexts,
    defaultField "codable_conformances" (fun p v => { p with codableConformances := v }) asTexts,
    defaultField "enum_conformances" (fun p v => { p with enumConformances := v }) asTexts,
    defaultField "digit_case_prefix" (fun p v => { p with digitCaseStart := v }) asText,
    defaultField "empty_case_identifier" (fun p v => { p with emptyCase := v }) asText]
  finish := .ok

/-- All settings. -/
def Settings.record : Record Settings Settings where
  name := "GeneratorConfig"
  blank := .default
  fields := [
    defaultField "prune" (fun s v => { s with prune := v })
      (PruneSettings.record.decode .document),
    defaultField "naming" (fun s v => { s with naming := v })
      (NamingSettings.record.decode .document),
    defaultField "render" (fun s v => { s with render := v })
      (RenderProfile.record.decode .document)]
  finish := .ok

/-- The settings of a JSON value. -/
def Settings.ofJson : Decoder Settings := Settings.record.decode .document

end ApiModels
