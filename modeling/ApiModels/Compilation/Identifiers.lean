/-!
# Distinct identifiers

Of identifiers that repeat, all but the first get a suffix: an underscore and the least number from
two on that gives an identifier not used before.
-/

namespace ApiModels

/-- An identifier with a number. -/
def numbered (identifier : String) (n : Nat) : String := identifier ++ "_" ++ toString n

/-- The identifier with the least number from two on that makes it none of the earlier ones. Among
one more candidates than there are earlier identifiers one is free. -/
def freeIdentifier (earlier : List String) (identifier : String) : String :=
  let candidates := (List.range (earlier.length + 1)).map fun i => numbered identifier (i + 2)
  (candidates.find? (!earlier.contains ·)).getD identifier

/-- The identifiers in their order, made distinct from each other and from the earlier ones. -/
def uniquifyAfter (earlier : List String) : List String → List String
  | [] => []
  | identifier :: identifiers =>
    let unique := if earlier.contains identifier then freeIdentifier earlier identifier
      else identifier
    unique :: uniquifyAfter (unique :: earlier) identifiers

/-- The identifiers in their order, made distinct. -/
def uniquify (identifiers : List String) : List String := uniquifyAfter [] identifiers

theorem length_uniquifyAfter (earlier identifiers : List String) :
    (uniquifyAfter earlier identifiers).length = identifiers.length := by
  induction identifiers generalizing earlier with
  | nil => rfl
  | cons identifier identifiers ih => simp [uniquifyAfter, ih]

/-- There are as many identifiers as before. -/
@[simp] theorem length_uniquify (identifiers : List String) :
    (uniquify identifiers).length = identifiers.length := length_uniquifyAfter _ _

end ApiModels
