import ApiModels.Json.Basic
import ApiModels.Text.Case
import ApiModels.Toml.Basic

/-!
# Trees of settings

A source of settings gives a tree of tables, lists and simple values (`Setting`); simple values,
lists and the tables in lists know their origin. Sources are laid over one another: `assign` puts a
value under a key, tables are merged key by key, anything else is replaced as a whole. Keys are
compared without regard to case outside of lists, so they are held in lower case.
-/

namespace ApiModels

/-- A value that a source of settings gives. -/
inductive Setting where
  | nothing (origin : Option String)
  | bool (value : Bool)
  | integer (value : Int)
  | float (value : Number.Binary64)
  | text (value : String)
  | list (origin : Option String) (items : List Setting)
  | table (origin : Option String) (entries : List (String × Setting))
  deriving Inhabited, Repr

namespace Setting

/-- The entries of a table by their keys. -/
abbrev Entries := List (String × Setting)

/-- The table without entries and origin. -/
def emptyTable : Setting := .table none []

/-- Puts a value in the place of the one that a key has, or adds it. -/
def putKey (key : String) (value : Setting) : Entries → Entries
  | [] => [(key, value)]
  | (key', value') :: rest =>
    if key' = key then (key, value) :: rest else (key', value') :: putKey key value rest

/-- The origin and the entries of a table; none of anything else. -/
def tableParts : Setting → Option String × Entries
  | .table origin entries => (origin, entries)
  | _ => (none, [])

/-- The origin and the items of a list; none of anything else. -/
def listParts : Setting → Option String × List Setting
  | .list origin items => (origin, items)
  | _ => (none, [])

/-- A key in lower case. -/
def foldKey (key : String) : String := String.ofList (Text.lowercase key.toList)

mutual

/-- Puts a value under a key of a table; anything else than a table becomes an empty one first. A
table is merged into the table that the key has. -/
def assign (key : String) : Setting → Setting → Setting
  | .table _ incoming, target =>
    let (origin, entries) := tableParts target
    let below := (entries.lookup (foldKey key)).getD emptyTable
    .table origin (putKey (foldKey key) (assignAll incoming below) entries)
  | value, target =>
    let (origin, entries) := tableParts target
    .table origin (putKey (foldKey key) value entries)

/-- Puts values under the keys of a table. -/
def assignAll : Entries → Setting → Setting
  | [], target => target
  | (key, value) :: rest, target => assignAll rest (assign key value target)

end

/-! ### Trees of files -/

mutual

/-- A TOML value as a setting. -/
def ofToml (origin : Option String) : Toml → Setting
  | .bool b => .bool b
  | .integer i => .integer i
  | .float x => .float x
  | .text s => .text s
  | .moment m => .text m.text
  | .list items => .list origin (ofTomlItems origin items)
  | .table _ entries => .table origin (ofTomlEntries origin entries)
  | .tables elements => .list origin (ofTomlTables origin elements)

/-- The items of a TOML list as settings. -/
def ofTomlItems (origin : Option String) : List Toml → List Setting
  | [] => []
  | item :: items => ofToml origin item :: ofTomlItems origin items

/-- The entries of a TOML table as settings. -/
def ofTomlEntries (origin : Option String) : List (String × Toml) → Entries
  | [] => []
  | (key, value) :: entries => (key, ofToml origin value) :: ofTomlEntries origin entries

/-- A TOML list of tables as settings. -/
def ofTomlTables (origin : Option String) : List (List (String × Toml)) → List Setting
  | [] => []
  | entries :: more => .table origin (ofTomlEntries origin entries) :: ofTomlTables origin more

end

/-- A JSON number as a setting; an integer that needs the sign bit becomes a float. -/
def ofJsonNumber : JsonNumber → Setting
  | .int i => if i < Nat.pow 2 63 then .integer i else .float (.ofNat i.toNat)
  | .float x => .float x

mutual

/-- A JSON value as a setting. -/
def ofJson (origin : Option String) : Json → Setting
  | .null => .nothing origin
  | .bool b => .bool b
  | .number n => ofJsonNumber n
  | .text s => .text s
  | .list items => .list origin (ofJsonItems origin items)
  | .object members => .table origin (ofJsonMembers origin members)

/-- The items of a JSON list as settings. -/
def ofJsonItems (origin : Option String) : List Json → List Setting
  | [] => []
  | item :: items => ofJson origin item :: ofJsonItems origin items

/-- The members of a JSON object as settings. -/
def ofJsonMembers (origin : Option String) : List (String × Json) → Entries
  | [] => []
  | (key, value) :: members => (key, ofJson origin value) :: ofJsonMembers origin members

end

end Setting

end ApiModels
