import ApiModels.Number.Percent

/-!
# Counts of a pruning

How many paths and schemas a document had and how many were kept.
-/

namespace ApiModels

/-- Counts before and after a pruning. -/
structure PruneSummary where
  allPaths : Nat
  keptPaths : Nat
  allSchemas : Nat
  keptSchemas : Nat
  deriving DecidableEq, Repr

namespace PruneSummary

/-- One line of the summary. -/
def line (what : String) (total kept : Nat) : String :=
  "   " ++ what ++ ": " ++ toString total ++ " -> " ++ toString kept ++ " (" ++
    String.ofList (Number.oneDecimal (Number.percent kept total)) ++ "% kept)"

/-- The summary in words; paths are counted as endpoints. -/
def text (s : PruneSummary) : String :=
  "Pruning Summary:\n" ++ line "Endpoints" s.allPaths s.keptPaths ++ "\n" ++
    line "Schemas" s.allSchemas s.keptSchemas

end PruneSummary

end ApiModels
