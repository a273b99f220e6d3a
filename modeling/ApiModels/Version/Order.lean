import ApiModels.Version.Basic

/-!
# The order of versions

Versions are ordered by their numbers, then by the pre-release, which comes before the release, and
then by the build. Identifiers are compared from the left; a numeric one comes before any other, and
a list before one that it starts. Numbers of a build that are equal are ordered by the count of
their leading zeros.
-/

namespace ApiModels.Version

/-- The order of texts, character by character. -/
def compareText (a b : List Char) : Ordering := compare (String.ofList a) (String.ofList b)

/-- The order of two numbers without leading zeros. -/
def compareDigits (a b : List Char) : Ordering :=
  (compare a.length b.length).then (compareText a b)

/-- The order of two numbers that may have leading zeros. -/
def comparePadded (a b : List Char) : Ordering :=
  (compareDigits (a.dropWhile (· == '0')) (b.dropWhile (· == '0'))).then
    (compare a.length b.length)

/-- The order of two identifiers, with the order of numbers given. -/
def compareIdentifier (numeric : List Char → List Char → Ordering) (a b : List Char) : Ordering :=
  match isNumeric a, isNumeric b with
  | false, true => .gt
  | true, false => .lt
  | false, false => compareText a b
  | true, true => numeric a b

/-- The order of two lists of identifiers. -/
def compareIdentifiers (numeric : List Char → List Char → Ordering) :
    List (List Char) → List (List Char) → Ordering
  | [], [] => .eq
  | [], _ :: _ => .lt
  | _ :: _, [] => .gt
  | a :: as, b :: bs => (compareIdentifier numeric a b).then (compareIdentifiers numeric as bs)

/-- The order of two pre-releases; a release has no identifiers and comes last. -/
def comparePreRelease (a b : List (List Char)) : Ordering :=
  match a, b with
  | [], [] => .eq
  | [], _ :: _ => .gt
  | _ :: _, [] => .lt
  | a, b => compareIdentifiers compareDigits a b

/-- The order of two builds. -/
def compareBuild (a b : List (List Char)) : Ordering := compareIdentifiers comparePadded a b

/-- The order of two versions. -/
def order (a b : Version) : Ordering :=
  (compare a.major b.major).then <| (compare a.minor b.minor).then <|
    (compare a.patch b.patch).then <| (comparePreRelease a.preRelease b.preRelease).then <|
      compareBuild a.build b.build

/-- Versions in ascending order. -/
def sort (versions : List Version) : List Version :=
  versions.mergeSort fun a b => order a b != .gt

end ApiModels.Version
