import ApiModels.Toml.Moment

/-!
# TOML values

`Toml` is the data of a TOML document. A table knows how it came to be (`TableOrigin`), because that
decides what may still be added to it, and a list of tables that headers made is told apart from a
list that was written as a value (`Toml.tables`).

`Toml.descend` walks down a path of keys and changes the table at its end; it makes the tables that
are missing.

A table whose first key is `Toml.momentMark` stands for a point in time (`Toml.settle`).
-/

namespace ApiModels

namespace Toml

/-- How a table came to be. -/
inductive TableOrigin where
  /-- By a header of its own, or as the root. -/
  | header
  /-- By the header of a table below it. -/
  | implied
  /-- By a dotted key. -/
  | dotted
  /-- As a value between braces. -/
  | inline
  deriving DecidableEq, Repr

end Toml

/-- A TOML value. -/
inductive Toml where
  | bool (value : Bool)
  | integer (value : Int)
  | float (value : Number.Binary64)
  | text (value : String)
  | moment (value : Toml.Moment)
  | list (items : List Toml)
  | table (origin : Toml.TableOrigin) (entries : List (String × Toml))
  /-- Tables under headers in double brackets. -/
  | tables (elements : List (List (String × Toml)))
  deriving Inhabited, Repr

namespace Toml

/-- The entries of a table by their keys. -/
abbrev Entries := List (String × Toml)

/-- Puts a value in the place of the one that a key has. -/
def replaceEntry (key : String) (value : Toml) (entries : Entries) : Entries :=
  entries.map fun entry => if entry.1 = key then (key, value) else entry

/-- A change of a table; none if it is not allowed. -/
abbrev Change := TableOrigin → Entries → Option (TableOrigin × Entries)

/-- Changes the table at the end of a path. The path goes through tables, and to the last table of
a list of tables. The path of a dotted key goes through no table that has a header of its own, and
the tables that it makes are dotted. -/
def descend (isDotted : Bool) (change : Change) : List String → Change
  | [], origin, entries => change origin entries
  | key :: path, origin, entries =>
    match entries.lookup key with
    | none => do
      let (made, below) ← descend isDotted change path (if isDotted then .dotted else .implied) []
      return (origin, entries ++ [(key, .table made below)])
    | some (.table here below) =>
      if here = .inline || isDotted && here = .header then none
      else do
        let (here, below) ← descend isDotted change path here below
        return (origin, replaceEntry key (.table here below) entries)
    | some (.tables elements) =>
      match elements.getLast? with
      | none => none
      | some last => do
        let (_, last) ← descend isDotted change path .header last
        return (origin, replaceEntry key (.tables (elements.dropLast ++ [last])) entries)
    | some _ => none

/-- Adds an entry with a new key to the table at the end of a path. A path of dotted keys has to
end in a dotted table, and a plain key stands in a table that is not. -/
def addValue (path : List String) (key : String) (value : Toml) : Change :=
  descend true (fun origin entries =>
    if origin = .dotted ↔ path = [] then none
    else if (entries.lookup key).isSome then none
    else some (origin, entries ++ [(key, value)])) path

/-- Opens a table under its header: a new one, or one that only headers below it have implied. It
is then the last entry of the table that it is in. -/
def openTable (path : List String) (key : String) : Change :=
  descend false (fun origin entries =>
    match entries.lookup key with
    | none => some (origin, entries ++ [(key, .table .header [])])
    | some (.table .implied below) =>
      some (origin, entries.filter (·.1 ≠ key) ++ [(key, .table .header below)])
    | some _ => none) path

/-- Opens the next table of a list of tables. -/
def openElement (path : List String) (key : String) : Change :=
  descend false (fun origin entries =>
    match entries.lookup key with
    | none => some (origin, entries ++ [(key, .tables [[]])])
    | some (.tables elements) =>
      some (origin, replaceEntry key (.tables (elements ++ [[]])) entries)
    | some _ => none) path

/-- Adds an entry to a table whose header has the given path. -/
def addBelow (header : List String) (path : List String) (key : String) (value : Toml) : Change :=
  descend false (addValue path key value) header

/-! ### Marked tables -/

/-- The key that marks a table as a point in time, which is its value. -/
def momentMark : String := "$__toml_private_datetime"

/-- Whether the first key of a table is the mark of a point in time. -/
def isMarked : Entries → Bool
  | (key, _) :: _ => key == momentMark
  | [] => false

/-- The point in time of a marked table, if its first value is the text of one. -/
def markedMoment? : Entries → Option Toml
  | (_, .text s) :: _ => (Moment.ofText? s).map .moment
  | _ => none

mutual

/-- A value with points in time in the place of marked tables; what else a marked table holds does
not count. Lists of tables become plain lists. -/
def settle : Toml → Option Toml
  | .list items => (settleItems items).map .list
  | .table origin entries =>
    if isMarked entries then markedMoment? entries
    else (settleEntries entries).map (.table origin)
  | .tables elements => (settleTables elements).map .list
  | value => some value

/-- Settles the items of a list. -/
def settleItems : List Toml → Option (List Toml)
  | [] => some []
  | item :: items => do
    let item ← settle item
    return item :: (← settleItems items)

/-- Settles the values of a table. -/
def settleEntries : List (String × Toml) → Option Entries
  | [] => some []
  | (key, value) :: entries => do
    let value ← settle value
    return (key, value) :: (← settleEntries entries)

/-- Settles a list of tables. -/
def settleTables : List (List (String × Toml)) → Option (List Toml)
  | [] => some []
  | entries :: more => do
    let first ←
      if isMarked entries then markedMoment? entries
      else (settleEntries entries).map (.table .header)
    return first :: (← settleTables more)

end

end Toml

end ApiModels
