import ApiModels.Settings.Basic
import ApiModels.Text.Alphabetic
import ApiModels.Text.Case
import ApiModels.Text.Lowercase

/-!
# Names of generated declarations

A name of the document is cut into segments at underscores, points, hyphens and blanks.

* A type name joins the segments with capitals (`pascalCase`), after the parts to strip have been
  removed and unless the name is replaced as a whole; it consists of ASCII letters and digits and
  starts with the marker.
* A member name joins them with a small letter first; whatever is no ASCII letter, digit or
  underscore becomes an underscore.
* The case of an enum literal is the literal in small letters with the same replacement.
-/

namespace ApiModels

namespace Naming

/-- The characters between the segments of a name. -/
def isSeparator (c : Char) : Bool := c == '_' || c == '.' || c == '-' || c == ' '

/-- The nonempty segments of a name. -/
def segments (name : List Char) : List (List Char) := Text.segments isSeparator name

/-- An ASCII letter or digit. -/
def isWordChar (c : Char) : Bool := c.isAlphanum

/-- An ASCII letter or digit or an underscore. -/
def isIdentifierChar (c : Char) : Bool := c.isAlphanum || c == '_'

/-- The characters with an underscore for each one that cannot stand in an identifier. -/
def transliterated (cs : List Char) : List Char :=
  cs.map fun c => if isIdentifierChar c then c else '_'

/-- The characters with `start` before them if they start with a digit. -/
def guardDigit (start : List Char) (cs : List Char) : List Char :=
  match cs with
  | [] => []
  | c :: _ => if c.isDigit then start ++ cs else cs

/-- The segments joined, each with its first character in upper case. -/
def pascalCase (name : List Char) : List Char := (segments name).flatMap Text.upperFirst

/-- A segment has letters and none of them is a small one. -/
def isScreaming (segment : List Char) : Bool :=
  segment.any Text.isAlphabetic && !segment.any Text.isLowercase

/-- The first segment of a member name. -/
def firstSegment (segment : List Char) : List Char :=
  if isScreaming segment then Text.lowercase segment else Text.lowerFirst segment

/-- The segments joined, the first one starting with a small letter. -/
def camelCase (name : List Char) : List Char :=
  match segments name with
  | [] => []
  | segment :: more => firstSegment segment ++ more.flatMap Text.upperFirst

end Naming

open Naming

/-- The segments of a name joined with capitals. -/
def pascalCase (name : String) : String := String.ofList (Naming.pascalCase name.toList)

/-- The member name of a property. -/
def memberName (name : String) : String :=
  let joined := transliterated (camelCase name.toList)
  if joined.isEmpty then "value" else String.ofList (guardDigit ['_'] joined)

/-- The case of an enum literal. -/
def RenderProfile.caseName (p : RenderProfile) (literal : String) : String :=
  let text := transliterated (Text.lowercase literal.toList)
  if text.isEmpty then p.emptyCase
  else String.ofList (guardDigit p.digitCaseStart.toList text)

namespace NamingSettings

/-- A schema name without the parts that are to be stripped. -/
def strip (s : NamingSettings) (name : List Char) : List Char :=
  (s.stripped ++ s.vendorTokens).foldl (fun name part => Text.replaceAll part.toList [] name) name

/-- A schema name before the marker: replaced as a whole, or stripped and joined, and then possibly
replaced. -/
def baseName (s : NamingSettings) (name : String) : List Char :=
  match s.renamed? name with
  | some new => new.toList
  | none =>
    let joined := Naming.pascalCase (s.strip name.toList)
    match s.renamed? (String.ofList joined) with
    | some new => new.toList
    | none => joined

/-- The characters of the type name of a schema. -/
def typeNameChars (s : NamingSettings) (name : String) : List Char :=
  let word := (s.baseName name).filter isWordChar
  let marker := s.marker.toList
  if word.isEmpty then (if marker.isEmpty then "Unnamed".toList else marker)
  else guardDigit ['_'] (if marker.isPrefixOf word then word else marker ++ word)

/-- The type name of a schema. -/
def typeName (s : NamingSettings) (name : String) : String := String.ofList (s.typeNameChars name)

end NamingSettings

end ApiModels
