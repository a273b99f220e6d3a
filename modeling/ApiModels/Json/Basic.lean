import ApiModels.Number.Binary64
import ApiModels.Keyed.Entries

/-!
# JSON values

`Json` is the data of a JSON text. An object is the list of its members in the order of the text;
`Json.canonical` sorts the members of every object by name and keeps the last of those that share a
name, which is the form in which documents are held.
-/

namespace ApiModels

/-- A JSON number: an integer from `-2^63` to `2^64 - 1`, or a finite floating-point number. -/
inductive JsonNumber where
  | int (value : Int)
  | float (value : Number.Binary64)
  deriving DecidableEq, Repr

/-- A JSON value. -/
inductive Json where
  | null
  | bool (value : Bool)
  | number (value : JsonNumber)
  | text (value : String)
  | list (items : List Json)
  | object (members : List (String × Json))
  deriving Inhabited, Repr

namespace Json

/-! ### Equality -/

mutual

/-- Equality of values, as a test. -/
def same : Json → Json → Bool
  | .null, .null => true
  | .bool a, .bool b => a == b
  | .number a, .number b => decide (a = b)
  | .text a, .text b => a == b
  | .list a, .list b => sameItems a b
  | .object a, .object b => sameMembers a b
  | _, _ => false

/-- Equality of lists of values, as a test. -/
def sameItems : List Json → List Json → Bool
  | [], [] => true
  | a :: as, b :: bs => same a b && sameItems as bs
  | _, _ => false

/-- Equality of lists of members, as a test. -/
def sameMembers : List (String × Json) → List (String × Json) → Bool
  | [], [] => true
  | (k, a) :: as, (l, b) :: bs => k == l && (same a b && sameMembers as bs)
  | _, _ => false

end

mutual

theorem same_iff : (a b : Json) → (same a b = true ↔ a = b)
  | .null, b => by cases b <;> simp [same]
  | .bool x, b => by cases b <;> simp [same]
  | .number x, b => by cases b <;> simp [same]
  | .text x, b => by cases b <;> simp [same]
  | .list x, b => by cases b <;> simp [same, sameItems_iff x]
  | .object x, b => by cases b <;> simp [same, sameMembers_iff x]

theorem sameItems_iff : (as bs : List Json) → (sameItems as bs = true ↔ as = bs)
  | [], bs => by cases bs <;> simp [sameItems]
  | a :: as, bs => by cases bs <;> simp [sameItems, same_iff a, sameItems_iff as]

theorem sameMembers_iff :
    (as bs : List (String × Json)) → (sameMembers as bs = true ↔ as = bs)
  | [], bs => by cases bs <;> simp [sameMembers]
  | (k, a) :: as, bs => by
    cases bs with
    | nil => simp [sameMembers]
    | cons b bs =>
      obtain ⟨l, b⟩ := b
      simp [sameMembers, same_iff a, sameMembers_iff as, and_assoc]

end

instance : DecidableEq Json := fun a b => decidable_of_iff _ (same_iff a b)

/-! ### Canonical form -/

mutual

/-- The value with the members of every object in ascending order of their names; of several
members with one name the last counts. -/
def canonical : Json → Json
  | .list items => .list (canonicalItems items)
  | .object members => .object (keyedLast (canonicalMembers members))
  | value => value

/-- The canonical forms of the items of a list. -/
def canonicalItems : List Json → List Json
  | [] => []
  | item :: items => canonical item :: canonicalItems items

/-- The members of an object in their order, with canonical values. -/
def canonicalMembers : List (String × Json) → List (String × Json)
  | [] => []
  | (name, value) :: members => (name, canonical value) :: canonicalMembers members

end

/-! ### Parts -/

/-- The members of an object. -/
def members? : Json → Option (List (String × Json))
  | .object members => some members
  | _ => none

/-- The items of a list. -/
def items? : Json → Option (List Json)
  | .list items => some items
  | _ => none

/-- The text of a string. -/
def text? : Json → Option String
  | .text value => some value
  | _ => none

/-- Whether a value is an object. -/
def isObject (value : Json) : Bool := value.members?.isSome

/-- The member of an object with the given name; none of anything else. -/
def get? (value : Json) (name : String) : Option Json :=
  value.members?.bind (·.lookup name)

/-- A list of strings. -/
def ofTexts (texts : List String) : Json := .list (texts.map .text)

/-- A natural number as a value. -/
def ofNat (n : Nat) : Json := .number (.int n)

end Json

end ApiModels
