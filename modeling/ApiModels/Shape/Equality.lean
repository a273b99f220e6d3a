import ApiModels.Shape.Basic

/-!
# Equality of shapes

Equality of shapes is decided by `Shape.same`, which goes through both in parallel.
-/

namespace ApiModels.Shape

mutual

/-- Equality of shapes, as a test. -/
def same : Shape → Shape → Bool
  | .primitive a f, .primitive b g => a == b && f == g
  | .object a, .object b => sameProperties a b
  | .array a, .array b => same a b
  | .enumeration a, .enumeration b => a == b
  | .reference a, .reference b => a == b
  | .union a, .union b => sameAlternatives a b
  | .unknown a, .unknown b => a == b
  | _, _ => false

/-- Equality of lists of shapes, as a test. -/
def sameAlternatives : List Shape → List Shape → Bool
  | [], [] => true
  | a :: as, b :: bs => same a b && sameAlternatives as bs
  | _, _ => false

/-- Equality of lists of properties, as a test. -/
def sameProperties : List (PropertyShape Shape) → List (PropertyShape Shape) → Bool
  | [], [] => true
  | ⟨n, r, d, a⟩ :: as, ⟨m, q, e, b⟩ :: bs =>
    n == m && r == q && d == e && (same a b && sameProperties as bs)
  | _, _ => false

end

mutual

theorem same_iff : (a b : Shape) → (same a b = true ↔ a = b)
  | .primitive .., b => by cases b <;> simp [same]
  | .object as, b => by cases b <;> simp [same, sameProperties_iff as]
  | .array a, b => by cases b <;> simp [same, same_iff a]
  | .enumeration _, b => by cases b <;> simp [same]
  | .reference _, b => by cases b <;> simp [same]
  | .union as, b => by cases b <;> simp [same, sameAlternatives_iff as]
  | .unknown _, b => by cases b <;> simp [same]

theorem sameAlternatives_iff : (as bs : List Shape) → (sameAlternatives as bs = true ↔ as = bs)
  | [], bs => by cases bs <;> simp [sameAlternatives]
  | a :: as, bs => by
    cases bs <;> simp [sameAlternatives, same_iff a, sameAlternatives_iff as]

theorem sameProperties_iff :
    (as bs : List (PropertyShape Shape)) → (sameProperties as bs = true ↔ as = bs)
  | [], bs => by cases bs <;> simp [sameProperties]
  | ⟨n, r, d, a⟩ :: as, bs => by
    cases bs with
    | nil => simp [sameProperties]
    | cons b bs =>
      obtain ⟨m, q, e, b⟩ := b
      simp [sameProperties, same_iff a, sameProperties_iff as, and_assoc]

end

instance : DecidableEq Shape := fun a b => decidable_of_iff _ (same_iff a b)

end ApiModels.Shape
