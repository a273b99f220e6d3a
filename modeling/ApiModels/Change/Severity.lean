/-!
# Severity of changes

How far a change reaches, in the tiers of semantic versions. The tiers are ordered by `rank`.
-/

namespace ApiModels

/-- The tier of the version that a change calls for. -/
inductive Severity where
  /-- Nothing structural has changed. -/
  | patch
  /-- Something was added. -/
  | minor
  /-- Something was removed or has become something else. -/
  | major
  deriving DecidableEq, Repr

namespace Severity

/-- The names of the tiers. -/
def known : List (String × Severity) := [("patch", .patch), ("minor", .minor), ("major", .major)]

/-- The name of a tier. -/
def name : Severity → String
  | .patch => "patch"
  | .minor => "minor"
  | .major => "major"

/-- What a reader of a report is told. -/
def recommendation : Severity → String
  | .major => "Detected potentially breaking changes (removed items or kind changes)."
  | .minor => "Non-breaking additions detected."
  | .patch => "No structural changes beyond patch level."

/-- The place of a tier in their order. -/
def rank : Severity → Nat
  | .patch => 0
  | .minor => 1
  | .major => 2

instance : LE Severity := ⟨fun a b => a.rank ≤ b.rank⟩

instance (a b : Severity) : Decidable (a ≤ b) := inferInstanceAs (Decidable (a.rank ≤ b.rank))

/-- The greater of two tiers. -/
protected def max (a b : Severity) : Severity := if a ≤ b then b else a

instance : Max Severity := ⟨Severity.max⟩

end Severity

end ApiModels
