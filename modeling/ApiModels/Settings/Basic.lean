import ApiModels.Text.Blank

/-!
# Settings

What a user can set: the operations that a pruning keeps, how schemas are named, and how types are
rendered. `Settings.default` holds what applies where nothing is set.
-/

namespace ApiModels

/-- The settings of a pruning. -/
structure PruneSettings where
  /-- The operation paths to keep. -/
  keepPaths : List String
  /-- Security schemes that are kept wherever a document defines them. -/
  extraSchemes : List String
  deriving DecidableEq, Repr

/-- A name that is replaced by another. -/
structure Renaming where
  old : String
  new : String
  deriving DecidableEq, Repr

/-- How names are made from those of the document. -/
structure NamingSettings where
  /-- Texts that are removed from schema names, such as name spaces. -/
  stripped : List String
  /-- Vendor names, which are removed next. -/
  vendorTokens : List String
  /-- What the name of every generated type starts with. -/
  marker : String
  /-- Whole names that are replaced; of several for one name the first counts. -/
  renamings : List Renaming
  deriving DecidableEq, Repr

/-- The target languages. -/
inductive Language where
  | swift
  deriving DecidableEq, Repr

/-- The names of the target languages. -/
def Language.known : List (String × Language) := [("swift", .swift)]

/-- The name of a target language. -/
def Language.name : Language → String
  | .swift => "swift"

/-- The types of the target language for scalar types and formats. -/
structure TypeNames where
  string : String
  integer : String
  int64 : String
  number : String
  float : String
  boolean : String
  datetime : String
  uri : String
  /-- For values whose structure is not described. -/
  any : String
  deriving DecidableEq, Repr

/-- How declarations are rendered. -/
structure RenderProfile where
  language : Language
  types : TypeNames
  /-- The conformances of a record whose properties can all be compared. -/
  equatableConformances : List String
  /-- The conformances of any other record. -/
  codableConformances : List String
  enumConformances : List String
  /-- What an enum case starts with that would start with a digit. -/
  digitCaseStart : String
  /-- The enum case of the empty text. -/
  emptyCase : String
  deriving DecidableEq, Repr

/-- All settings. -/
structure Settings where
  prune : PruneSettings
  naming : NamingSettings
  render : RenderProfile
  deriving DecidableEq, Repr

/-! ### Defaults -/

/-- The operations that are kept by default. -/
def PruneSettings.default : PruneSettings where
  keepPaths := ["/responses", "/embeddings", "/files", "/files/\x7bfile_id\x7d"]
  extraSchemes := ["ApiKeyAuth"]

/-- The names by default. -/
def NamingSettings.default : NamingSettings where
  stripped := ["OpenAI."]
  vendorTokens := ["Azure"]
  marker := "Generated"
  renamings := [
    ⟨"expires_after", "ExpiresAfter"⟩,
    ⟨"error", "Error"⟩,
    ⟨"CreateEmbeddingRequest", "EmbeddingRequest"⟩,
    ⟨"CreateEmbeddingResponse", "EmbeddingResponse"⟩,
    ⟨"CreateFileRequest", "FileRequest"⟩,
    ⟨"CreateResponse", "ResponseRequest"⟩]

/-- The types by default. -/
def TypeNames.default : TypeNames where
  string := "String"
  integer := "Int"
  int64 := "Int64"
  number := "Double"
  float := "Float"
  boolean := "Bool"
  datetime := "Date"
  uri := "URL"
  any := "SAOAIJSONValue"

/-- The rendering by default. -/
def RenderProfile.default : RenderProfile where
  language := .swift
  types := .default
  equatableConformances := ["Codable", "Equatable"]
  codableConformances := ["Codable"]
  enumConformances := ["String", "Codable", "CaseIterable"]
  digitCaseStart := "case_"
  emptyCase := "unknown"

/-- All settings by default. -/
def Settings.default : Settings := ⟨.default, .default, .default⟩

instance : Inhabited Settings := ⟨.default⟩

/-! ### Use -/

/-- What a whole name is replaced by. -/
def NamingSettings.renamed? (s : NamingSettings) (name : String) : Option String :=
  (s.renamings.find? (·.old == name)).map (·.new)

/-- A list type of the target language. -/
def RenderProfile.listOf (p : RenderProfile) (item : String) : String :=
  match p.language with
  | .swift => "[" ++ item ++ "]"

/-- What follows the type of a property that may be absent. -/
def RenderProfile.optionalMark (p : RenderProfile) : String :=
  match p.language with
  | .swift => "?"

/-- The reserved words of the target language. -/
def Language.reserved : Language → List String
  | .swift => [
    "associatedtype", "class", "deinit", "enum", "extension", "fileprivate", "func",
    "import", "init", "inout", "internal", "let", "open", "operator", "private",
    "precedencegroup", "protocol", "public", "rethrows", "static", "struct", "subscript",
    "typealias", "var", "break", "case", "catch", "continue", "default", "defer", "do",
    "else", "fallthrough", "for", "guard", "if", "in", "repeat", "return", "throw",
    "switch", "where", "while", "as", "Any", "false", "is", "nil", "self", "Self", "super",
    "throws", "true", "try", "Type", "Protocol"]

/-- An identifier as it is written; a reserved word stands between backticks. -/
def RenderProfile.identifier (p : RenderProfile) (name : String) : String :=
  if p.language.reserved.contains name then "\x60" ++ name ++ "\x60" else name

end ApiModels
