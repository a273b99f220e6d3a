import ApiModels.Settings.Tree
import ApiModels.Toml.Number
import ApiModels.Toml.Text

/-!
# Key paths

The keys at the top of a source are paths: names with points between them and indexes in brackets,
such as `naming.overrides[0].from`, in any case. A key that is no path is taken as a single name.

`KeyPath.put` puts a value to the end of a path. It makes tables and lists where the path needs
them, in the place of values of another kind.
-/

namespace ApiModels

/-- A step from a value to a part of it. -/
inductive KeyStep where
  | name (key : String)
  | index (i : Int)
  deriving DecidableEq, Repr

/-- A path from the root of the settings. -/
structure KeyPath where
  first : String
  steps : List KeyStep
  deriving DecidableEq, Repr

namespace KeyPath

/-! ### Reading -/

/-- Whether a character may stand in a name. -/
def isNameChar (c : Char) : Bool :=
  ('a' ≤ c && c ≤ 'z') || ('A' ≤ c && c ≤ 'Z') || ('0' ≤ c && c ≤ '9') || c == '_' || c == '-' ||
    c == ' '

/-- A name that is not empty, and the text after it. -/
def readName (cs : List Char) : Option (String × List Char) :=
  let name := cs.takeWhile isNameChar
  if name.isEmpty then none else some (String.ofList name, cs.drop name.length)

/-- An index after its bracket, with the closing one. It has to fit into 64 bits, and tabs and
spaces may stand around it. -/
def readIndex (cs : List Char) : Option (Int × List Char) := do
  let cs := Toml.skipSpaces cs
  let (negative, cs) := match cs with
    | '-' :: rest => (true, rest)
    | _ => (false, cs)
  let digits := cs.takeWhile Toml.isDigit
  if digits.isEmpty then none
  else
    let n := Toml.digitsValue digits
    let i : Int := if negative then -n else n
    let rest ← Toml.expect ']' (Toml.skipSpaces (cs.drop digits.length))
    if Toml.fits64 i then some (i, rest) else none

/-- The steps that a text spells out. -/
def readSteps : Nat → List Char → Option (List KeyStep)
  | _, [] => some []
  | 0, _ :: _ => none
  | fuel + 1, c :: cs =>
    if c = '.' then do
      let (name, rest) ← readName cs
      return .name name :: (← readSteps fuel rest)
    else if c = '[' then do
      let (i, rest) ← readIndex cs
      return .index i :: (← readSteps fuel rest)
    else none

/-- The path that a key spells out. -/
def read? (key : String) : Option KeyPath := do
  let (first, rest) ← readName key.toList
  return ⟨first, ← readSteps rest.length rest⟩

/-- The path of a key; one that spells out none is a single name. -/
def ofKey (key : String) : KeyPath := (read? key).getD ⟨key, []⟩

/-! ### Putting values -/

/-- The place of an index in a list of the given length; negative ones count from the end. -/
def position (i : Int) (length : Nat) : Nat :=
  if 0 ≤ i then i.toNat else length - i.natAbs

/-- The items of a list and, where it does not reach as far as an index, nothing in the places that
are missing after its end or before its start. -/
def reaching (i : Int) (items : List Setting) : List Setting :=
  if 0 ≤ i then items ++ List.replicate (i.toNat + 1 - items.length) (.nothing none)
  else List.replicate (i.natAbs - items.length) (.nothing none) ++ items

/-- Puts a value to the end of the steps from a target on. -/
def putAlong (value : Setting) : List KeyStep → Setting → Setting
  | [], _ => value
  | [.name key], target => Setting.assign key value target
  | .name key :: steps, target =>
    let (origin, entries) := target.tableParts
    let below := (entries.lookup key).getD (.nothing none)
    .table origin (Setting.putKey key (putAlong value steps below) entries)
  | .index i :: steps, target =>
    let (origin, items) := target.listParts
    let items := reaching i items
    let place := position i items.length
    .list origin (items.set place (putAlong value steps (items.getD place (.nothing none))))

/-- Puts a value to the end of a path. -/
def put (path : KeyPath) (value : Setting) (root : Setting) : Setting :=
  putAlong value (.name path.first :: path.steps) root

end KeyPath

/-- Lays the entries of a source over a tree of settings. -/
def Setting.overlay (root : Setting) (entries : Setting.Entries) : Setting :=
  entries.foldl (fun root (key, value) => (KeyPath.ofKey (foldKey key)).put value root) root

end ApiModels
