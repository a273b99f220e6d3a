import ApiModels.Settings.KeyPath
import ApiModels.Text.Blank

/-!
# Settings from the environment

A variable whose name starts with `MODELGEN__`, in any case, sets the key that the rest of its name
spells out with `__` between the names. Its value is read as a boolean, an integer of 64 bits or a
number if it has the form of one, and is a text otherwise.
-/

namespace ApiModels

/-- Variables with their values. -/
abbrev Environment := List (String × String)

namespace Environment

/-- What the names of the variables start with, in lower case. -/
def mark : String := "modelgen__"

/-- The key that a variable sets. -/
def key? (name : String) : Option String :=
  (Text.after? mark.toList (Text.lowercase name.toList)).map fun rest =>
    String.ofList (Text.replaceAll ['_', '_'] ['.'] rest)

/-- A sign, and whether it is a minus. -/
def readSign : List Char → Bool × List Char
  | '+' :: cs => (false, cs)
  | '-' :: cs => (true, cs)
  | cs => (false, cs)

/-- The value of a text of decimal digits only. -/
def digits? (cs : List Char) : Option Nat :=
  if cs.isEmpty || !cs.all Toml.isDigit then none else some (Toml.digitsValue cs)

/-- An integer of 64 bits. -/
def integer? (s : String) : Option Int := do
  let (negative, cs) := readSign s.toList
  let n ← digits? cs
  let i : Int := if negative then -n else n
  if -(Nat.pow 2 63 : Int) ≤ i ∧ i < Nat.pow 2 63 then some i else none

/-- The exponent of a number, after its mantissa: nothing, or an `e` with an integer. -/
def exponent? : List Char → Option Int
  | [] => some 0
  | c :: cs =>
    if c = 'e' ∨ c = 'E' then do
      let (negative, cs) := readSign cs
      let n ← digits? cs
      return if negative then -n else n
    else none

/-- A decimal number without its sign: digits with a point before, between or after them, and
perhaps an exponent. -/
def decimal? (negative : Bool) (cs : List Char) : Option Number.Binary64 := do
  let whole := cs.takeWhile Toml.isDigit
  let rest := cs.drop whole.length
  let (decimals, rest) := match rest with
    | '.' :: rest => (rest.takeWhile Toml.isDigit, rest.dropWhile Toml.isDigit)
    | _ => ([], rest)
  if whole.isEmpty && decimals.isEmpty then none
  else
    let exponent ← exponent? rest
    return .ofDecimal negative (Toml.digitsValue (whole ++ decimals)) (exponent - decimals.length)

/-- A number, also one that a word names. -/
def float? (s : String) : Option Number.Binary64 :=
  let (negative, cs) := readSign s.toList
  let word := String.ofList (cs.map Char.toLower)
  if word = "inf" ∨ word = "infinity" then some (.infinity negative)
  else if word = "nan" then some (if negative then Number.Binary64.nan.neg else .nan)
  else decimal? negative cs

/-- A boolean in any case. -/
def bool? (s : String) : Option Bool :=
  let word := Setting.foldKey s
  if word = "true" then some true else if word = "false" then some false else none

/-- The value of a variable. -/
def setting (value : String) : Setting :=
  match bool? value with
  | some b => .bool b
  | none =>
    match integer? value with
    | some i => .integer i
    | none =>
      match float? value with
      | some x => .float x
      | none => .text value

/-- The keys that the variables set, with their values. -/
def entries (env : Environment) : Setting.Entries :=
  env.filterMap fun (name, value) => (key? name).map fun key => (key, setting value)

example : key? "modelgen__RENDER__TYPES__ANY" = some "render.types.any" := by decide +kernel
example : integer? "007" = some 7 ∧ integer? "1_0" = none := by decide +kernel

end Environment

end ApiModels
