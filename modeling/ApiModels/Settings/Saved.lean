import ApiModels.Files.Basic
import ApiModels.Settings.Basic
import ApiModels.Toml.Printer

/-!
# Saved settings

Settings as a TOML document, with all their fields.
-/

namespace ApiModels

open Toml

/-- The table of the settings of a pruning. -/
def PruneSettings.section (s : PruneSettings) : Section where
  name := "prune"
  isElement := false
  entries := [("keep_paths", .texts s.keepPaths), ("extra_security_schemes", .texts s.extraSchemes)]

/-- The table of a renaming. -/
def Renaming.section (r : Renaming) : Section where
  name := "naming.overrides"
  isElement := true
  entries := [("from", .text r.old), ("to", .text r.new)]

/-- The tables of the settings for names. Without renamings an empty list of them is written. -/
def NamingSettings.sections (s : NamingSettings) : List Section :=
  { name := "naming"
    isElement := false
    entries :=
      [("strip_prefixes", .texts s.stripped), ("vendor_tokens", .texts s.vendorTokens),
        ("marker_prefix", .text s.marker)] ++
      if s.renamings.isEmpty then [("overrides", .texts [])] else [] } ::
  s.renamings.map Renaming.section

/-- The tables of the rendering. -/
def RenderProfile.sections (p : RenderProfile) : List Section :=
  [{ name := "render"
     isElement := false
     entries := [
      ("language", .text p.language.name),
      ("equatable_conformances", .texts p.equatableConformances),
      ("codable_conformances", .texts p.codableConformances),
      ("enum_conformances", .texts p.enumConformances),
      ("digit_case_prefix", .text p.digitCaseStart),
      ("empty_case_identifier", .text p.emptyCase)] },
   { name := "render.types"
     isElement := false
     entries := [
      ("string", .text p.types.string), ("integer", .text p.types.integer),
      ("int64", .text p.types.int64), ("number", .text p.types.number),
      ("float", .text p.types.float), ("boolean", .text p.types.boolean),
      ("datetime", .text p.types.datetime), ("uri", .text p.types.uri),
      ("any", .text p.types.any)] }]

/-- The TOML document of settings. -/
def Settings.tomlText (s : Settings) : String :=
  documentText (s.prune.section :: s.naming.sections ++ s.render.sections)

/-- Writes settings to a file. -/
def Settings.save (s : Settings) (files : Files) (path : String) : Except FileFault Files :=
  files.writeText path s.tomlText

end ApiModels
