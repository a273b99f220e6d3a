import ApiModels.Declaration.Basic

/-!
# Which records can be compared

A record that cannot be compared makes every record that refers to it incomparable too.
`propagateEquatable` repeats one step of this until nothing changes; each step but the last leaves
fewer comparable records.
-/

namespace ApiModels

/-- The type inside all brackets. -/
def innermostType (type : String) : String :=
  String.ofList (((type.toList.dropWhile (· == '[')).reverse.dropWhile (· == ']')).reverse)

/-- The names of the records that cannot be compared. -/
def opaqueNames (records : List RecordType) : List String :=
  (records.filter (!·.isEquatable)).map (·.name)

/-- Whether a record refers to one of the names. -/
def RecordType.refersTo (names : List String) (r : RecordType) : Bool :=
  r.properties.any fun p => names.contains (innermostType p.type)

/-- A record that refers to one of the names is not comparable. -/
def RecordType.spoiledBy (names : List String) (r : RecordType) : RecordType :=
  if r.isEquatable && r.refersTo names then { r with isEquatable := false } else r

/-- The comparable records. -/
def equatables (records : List RecordType) : List RecordType := records.filter (·.isEquatable)

theorem RecordType.spoiledBy_eq_or (names : List String) (r : RecordType) :
    r.spoiledBy names = r ∨ (r.isEquatable = true ∧ (r.spoiledBy names).isEquatable = false) := by
  rw [spoiledBy]
  split
  · next h => exact .inr ⟨(Bool.and_eq_true_iff.1 h).1, rfl⟩
  · exact .inl rfl

theorem length_equatables_map_le (names : List String) (records : List RecordType) :
    (equatables (records.map (RecordType.spoiledBy names))).length ≤
      (equatables records).length := by
  induction records with
  | nil => simp [equatables]
  | cons r records ih =>
    simp only [equatables, List.map_cons, List.filter_cons] at ih ⊢
    rcases r.spoiledBy_eq_or names with h | ⟨h1, h2⟩
    · rw [h]
      split
      · simpa using ih
      · exact ih
    · simp [h1, h2]
      omega

theorem length_equatables_map_lt {names : List String} {records : List RecordType}
    (h : records.map (RecordType.spoiledBy names) ≠ records) :
    (equatables (records.map (RecordType.spoiledBy names))).length <
      (equatables records).length := by
  induction records with
  | nil => simp at h
  | cons r records ih =>
    have hle := length_equatables_map_le names records
    simp only [equatables, List.map_cons, List.filter_cons] at ih hle ⊢
    rcases r.spoiledBy_eq_or names with hr | ⟨h1, h2⟩
    · have hne : records.map (RecordType.spoiledBy names) ≠ records := by
        intro heq
        exact h (by simp [hr, heq])
      rw [hr]
      split
      · simpa using ih hne
      · exact ih hne
    · simp [h1, h2]
      omega

/-- The records with the mark of comparability taken from all that refer, directly or through
others, to one without it. -/
def propagateEquatable (records : List RecordType) : List RecordType :=
  if h : records.map (RecordType.spoiledBy (opaqueNames records)) = records then records
  else
    have := length_equatables_map_lt h
    propagateEquatable (records.map (RecordType.spoiledBy (opaqueNames records)))
termination_by (equatables records).length

end ApiModels
