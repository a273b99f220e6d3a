import ApiModels.Json.Reader
import ApiModels.Json.Serializer
import ApiModels.Json.Sorted
import ApiModels.Malformation

/-!
# API documents

A `Document` is an API description: a JSON object whose sections `paths`, `components` and
`components.schemas` are objects where they are present. Its members are held in sorted order, so
the text that is written for it is determined by its contents.
-/

namespace ApiModels

/-- The first section of a root object that is no object although it is present. -/
def sectionFault (members : List (String × Json)) : Option Malformation :=
  match members.lookup "paths" with
  | some paths =>
    if paths.isObject then componentsFault members else some .pathsNotObject
  | none => componentsFault members
where
  /-- What is wrong with the section `components`. -/
  componentsFault (members : List (String × Json)) : Option Malformation :=
    match members.lookup "components" with
    | none => none
    | some components =>
      if !components.isObject then some .componentsNotObject
      else match components.get? "schemas" with
        | some schemas => if schemas.isObject then none else some .schemasNotObject
        | none => none

/-- An API description. -/
structure Document where
  /-- The members of the root object. -/
  members : List (String × Json)
  /-- All objects in it are sorted. -/
  sorted : Json.Sorted (.object members)
  /-- The sections are objects. -/
  sections : sectionFault members = none

namespace Document

theorem ext {a b : Document} (h : a.members = b.members) : a = b := by
  cases a; cases b; cases h; rfl

instance : DecidableEq Document := fun a b =>
  if h : a.members = b.members then isTrue (ext h) else isFalse fun heq => h (heq ▸ rfl)

/-- The document of a JSON value. -/
def ofJson (value : Json) : Except Malformation Document :=
  match hvalue : value.canonical with
  | .object members =>
    match hsections : sectionFault members with
    | some malformation => .error malformation
    | none => .ok ⟨members, hvalue ▸ Json.sorted_canonical value, hsections⟩
  | _ => .error .rootNotObject

/-- The document of a JSON text. -/
def read (s : String) : Except Malformation Document :=
  match Json.read s with
  | .ok value => ofJson value
  | .error fault => .error (.invalidJson fault)

/-- The document as a JSON value. -/
def toJson (d : Document) : Json := .object d.members

/-- The pretty text of a document. -/
def pretty (d : Document) : String := d.toJson.pretty

/-- The pretty text of a document as the serializer gives it. -/
def serialize (d : Document) : Except SerializeFault String := d.toJson.serialize Json.pretty

theorem serialize_eq_ok (d : Document) : d.serialize = .ok d.pretty := Json.serialize_eq_ok _ _

/-- A member of the root object. -/
def field? (d : Document) (name : String) : Option Json := d.members.lookup name

/-- The operation paths, with what each of them offers. -/
def paths? (d : Document) : Option (List (String × Json)) :=
  (d.field? "paths").bind Json.members?

/-- A section of the components. -/
def component? (d : Document) (name : String) : Option Json :=
  (d.field? "components").bind (·.get? name)

/-- The named schemas. -/
def schemas? (d : Document) : Option (List (String × Json)) :=
  (d.component? "schemas").bind Json.members?

/-- The named security schemes, if the section is an object. -/
def securitySchemes? (d : Document) : Option (List (String × Json)) :=
  (d.component? "securitySchemes").bind Json.members?

/-- The list of security requirements, if the section is a list. -/
def security? (d : Document) : Option (List Json) := (d.field? "security").bind Json.items?

/-- The operation paths; none if the section is absent. -/
def paths (d : Document) : List (String × Json) := d.paths?.getD []

/-- The named schemas; none if the section is absent. -/
def schemas (d : Document) : List (String × Json) := d.schemas?.getD []

/-! ### The sections are sorted -/

theorem sorted_field {d : Document} {name : String} {value : Json}
    (h : d.field? name = some value) : value.Sorted := d.sorted.of_lookup h

theorem sorted_component {d : Document} {name : String} {value : Json}
    (h : d.component? name = some value) : value.Sorted := by
  obtain ⟨components, hc, hv⟩ := Option.bind_eq_some_iff.1 h
  exact (sorted_field hc).of_get? hv

theorem sorted_paths (d : Document) : Json.Sorted (.object d.paths) := by
  rw [paths]
  cases h : d.paths? with
  | none => exact ⟨List.Pairwise.nil, trivial⟩
  | some paths =>
    obtain ⟨value, hvalue, hpaths⟩ := Option.bind_eq_some_iff.1 h
    cases value <;> simp [Json.members?] at hpaths
    exact hpaths ▸ sorted_field hvalue

theorem sorted_schemas (d : Document) : Json.Sorted (.object d.schemas) := by
  rw [schemas]
  cases h : d.schemas? with
  | none => exact ⟨List.Pairwise.nil, trivial⟩
  | some schemas =>
    obtain ⟨value, hvalue, hschemas⟩ := Option.bind_eq_some_iff.1 h
    cases value <;> simp [Json.members?] at hschemas
    exact hschemas ▸ sorted_component hvalue

theorem sorted_securitySchemes {d : Document} {schemes : List (String × Json)}
    (h : d.securitySchemes? = some schemes) : Json.Sorted (.object schemes) := by
  obtain ⟨value, hvalue, hschemes⟩ := Option.bind_eq_some_iff.1 h
  cases value <;> simp [Json.members?] at hschemes
  exact hschemes ▸ sorted_component hvalue

theorem sorted_security {d : Document} {requirements : List Json}
    (h : d.security? = some requirements) : Json.Sorted (.list requirements) := by
  obtain ⟨value, hvalue, hitems⟩ := Option.bind_eq_some_iff.1 h
  cases value <;> simp [Json.items?] at hitems
  exact hitems ▸ sorted_field hvalue

end Document

/-- Without sections a document is empty. -/
instance : Inhabited Document :=
  ⟨⟨[], ⟨List.Pairwise.nil, trivial⟩, rfl⟩⟩

end ApiModels
