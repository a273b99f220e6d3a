import ApiModels.Proofs.Version.Reading
import ApiModels.Version.Order

/-!
# Versions go up

A bump within 64 bits raises one of the three numbers and lowers only those after it
(`isAbove_bump`), whatever pre-release and build the version had. Numbers that are above others
decide the order of versions before their identifiers are looked at (`IsAbove.isGreater`), so a
history of bumps ascends from any version to any later one (`pairwise_isAbove_versions`). Only the
version that it starts from has identifiers, so all of them are well formed
(`isWellFormed_of_mem_versions`).

At the greatest number a bump goes down (`isAbove_of_overflows`), or the program stops
(`history_checked_eq_none_iff`). So the bumps of a version ascend exactly as far as they stay within
64 bits (`Fits.bumpsAscend`).
-/

namespace ApiModels.Version

/-- The versions that bumps lead through, from the one that they start with; none if the program
stops on the way. -/
def history (arithmetic : Arithmetic) (v : Version) : List Severity → Option (List Version)
  | [] => some [v]
  | severity :: bumps => do
    let next ← v.next? arithmetic severity
    return v :: (← history arithmetic next bumps)

/-- The sequence of bumps stays within 64 bits. -/
def StaysWithin (v : Version) : List Severity → Prop
  | [] => True
  | severity :: bumps => ¬ v.Overflows severity ∧ (v.bump severity).StaysWithin bumps

/-- The versions that bumps lead through if nothing stops them. -/
def versions (v : Version) : List Severity → List Version
  | [] => [v]
  | severity :: bumps => v :: (v.bump severity).versions bumps

/-- The numbers of `b` are above those of `a`: the first that differs is greater. -/
def IsAbove (b a : Version) : Prop :=
  a.major < b.major ∨ a.major = b.major ∧
    (a.minor < b.minor ∨ a.minor = b.minor ∧ a.patch < b.patch)

theorem IsAbove.trans {a b c : Version} (hcb : c.IsAbove b) (hba : b.IsAbove a) :
    c.IsAbove a := by
  unfold IsAbove at *
  omega

/-- In the order of versions, `b` is greater than `a`, and `a` is less than `b`. -/
def IsGreater (b a : Version) : Prop := order b a = .gt ∧ order a b = .lt

/-- The numbers decide before the identifiers are looked at. -/
theorem IsAbove.isGreater {a b : Version} (h : b.IsAbove a) : b.IsGreater a := by
  unfold IsGreater order
  rcases h with hmajor | ⟨hmajor, hminor | ⟨hminor, hpatch⟩⟩
  · rw [Nat.compare_eq_gt.2 hmajor, Nat.compare_eq_lt.2 hmajor]
    exact ⟨rfl, rfl⟩
  · rw [hmajor, Nat.compare_eq_eq.2 rfl, Nat.compare_eq_gt.2 hminor, Nat.compare_eq_lt.2 hminor]
    exact ⟨rfl, rfl⟩
  · rw [hmajor, hminor, Nat.compare_eq_eq.2 rfl, Nat.compare_eq_eq.2 rfl,
      Nat.compare_eq_gt.2 hpatch, Nat.compare_eq_lt.2 hpatch]
    exact ⟨rfl, rfl⟩

theorem IsAbove.not_isGreater {a b : Version} (h : b.IsAbove a) : ¬ a.IsGreater b := by
  rintro ⟨hgreater, -⟩
  cases hgreater.symm.trans h.isGreater.2

/-! ### Numbers -/

theorem lt_successor {n : Nat} (h : n < maxNumber) : n < successor n := by
  rw [successor, Nat.mod_eq_of_lt (Nat.succ_lt_succ h)]
  exact Nat.lt_succ_self n

theorem successor_le (n : Nat) : successor n ≤ maxNumber :=
  Nat.le_of_lt_succ (Nat.mod_lt _ (Nat.succ_pos _))

theorem successor_lt {n : Nat} (hle : n ≤ maxNumber) (h : maxNumber ≤ n) : successor n < n := by
  obtain rfl := Nat.le_antisymm hle h
  rw [successor, Nat.mod_self]
  decide

/-! ### One bump -/

variable {v : Version} {severity : Severity}

theorem next?_eq_some (h : ¬ v.Overflows severity) (arithmetic : Arithmetic) :
    v.next? arithmetic severity = some (v.bump severity) := if_neg fun hstops => h hstops.2

theorem next?_checked_eq_none (h : v.Overflows severity) : v.next? .checked severity = none :=
  if_pos ⟨rfl, h⟩

theorem isAbove_bump (h : ¬ v.Overflows severity) : (v.bump severity).IsAbove v := by
  replace h := lt_successor (Nat.not_le.1 h)
  cases severity with
  | major => exact .inl h
  | minor => exact .inr ⟨rfl, .inl h⟩
  | patch => exact .inr ⟨rfl, .inr ⟨rfl, h⟩⟩

theorem bump_major_isAbove (h : ¬ v.Overflows .major) : (v.bump .major).IsAbove (v.bump .minor) :=
  .inl (lt_successor (Nat.not_le.1 h))

theorem bump_minor_isAbove (h : ¬ v.Overflows .minor) : (v.bump .minor).IsAbove (v.bump .patch) :=
  .inr ⟨rfl, .inl (lt_successor (Nat.not_le.1 h))⟩

section Overflow

variable (hfits : v.Fits)

include hfits

theorem raised_le (severity : Severity) : v.raised severity ≤ maxNumber := by
  obtain ⟨hmajor, hminor, hpatch⟩ := hfits
  cases severity <;> assumption

theorem isAbove_of_overflows (h : v.Overflows severity) : v.IsAbove (v.bump severity) := by
  have hdown := successor_lt (raised_le hfits severity) h
  cases severity with
  | major => exact .inl hdown
  | minor => exact .inr ⟨rfl, .inl hdown⟩
  | patch => exact .inr ⟨rfl, .inr ⟨rfl, hdown⟩⟩

theorem bump_minor_isAbove_of_overflows (h : v.Overflows .major) :
    (v.bump .minor).IsAbove (v.bump .major) :=
  .inl (successor_lt (raised_le hfits .major) h)

theorem bump_patch_isAbove_of_overflows (h : v.Overflows .minor) :
    (v.bump .patch).IsAbove (v.bump .minor) :=
  .inr ⟨rfl, .inl (successor_lt (raised_le hfits .minor) h)⟩

theorem fits_bump (severity : Severity) : (v.bump severity).Fits := by
  obtain ⟨hmajor, hminor, -⟩ := hfits
  cases severity with
  | major => exact ⟨successor_le _, Nat.zero_le _, Nat.zero_le _⟩
  | minor => exact ⟨hmajor, successor_le _, Nat.zero_le _⟩
  | patch => exact ⟨hmajor, hminor, successor_le _⟩

end Overflow

theorem IsWellFormed.bump (h : v.IsWellFormed) (severity : Severity) :
    (v.bump severity).IsWellFormed := by
  refine ⟨fits_bump h.fits severity, ?_, ?_⟩ <;> cases severity <;> exact List.forall_mem_nil _

/-- How the bumps of a version are ordered. Each of them is greater than the version, and that for a
graver change is the greater one, exactly if the number that is raised has a successor in 64 bits.
-/
structure BumpsAscend (v : Version) : Prop where
  /-- Where a bump stays within 64 bits, it does not matter how the program was built. -/
  next : ∀ severity, ¬ v.Overflows severity →
    ∀ arithmetic, v.next? arithmetic severity = some (v.bump severity)
  /-- Where it does not, a program that checks its sums stops. -/
  stops : ∀ severity, v.Overflows severity → v.next? .checked severity = none
  greater : ∀ severity, (v.bump severity).IsGreater v ↔ ¬ v.Overflows severity
  major : (v.bump .major).IsGreater (v.bump .minor) ↔ ¬ v.Overflows .major
  minor : (v.bump .minor).IsGreater (v.bump .patch) ↔ ¬ v.Overflows .minor

/-- What is above others unless something overflows, and below them if it does. -/
theorem isGreater_iff {a b : Version} {overflow : Prop} (hup : ¬ overflow → b.IsAbove a)
    (hdown : overflow → a.IsAbove b) : b.IsGreater a ↔ ¬ overflow :=
  ⟨fun hgreater h => (hdown h).not_isGreater hgreater, fun h => (hup h).isGreater⟩

theorem Fits.bumpsAscend (h : v.Fits) : v.BumpsAscend where
  next _ := next?_eq_some
  stops _ := next?_checked_eq_none
  greater _ := isGreater_iff isAbove_bump (isAbove_of_overflows h)
  major := isGreater_iff bump_major_isAbove (bump_minor_isAbove_of_overflows h)
  minor := isGreater_iff bump_minor_isAbove (bump_patch_isAbove_of_overflows h)

example : next? .wrapping ⟨maxNumber, 7, 0, ["rc".toList], []⟩ .major = some ⟨0, 0, 0, [], []⟩ ∧
    next? .checked ⟨maxNumber, 7, 0, ["rc".toList], []⟩ .major = none := by decide +kernel

/-! ### Histories -/

theorem history_eq_some {bumps : List Severity} (h : v.StaysWithin bumps)
    (arithmetic : Arithmetic) : v.history arithmetic bumps = some (v.versions bumps) := by
  induction bumps generalizing v with
  | nil => rfl
  | cons severity bumps ih =>
    rw [history, next?_eq_some h.1, Option.bind_eq_bind, Option.bind_some, ih h.2]
    rfl

/-- **Checked bumps stop exactly if they do not stay within 64 bits.** -/
theorem history_checked_eq_none_iff {bumps : List Severity} :
    v.history .checked bumps = none ↔ ¬ v.StaysWithin bumps := by
  constructor
  · intro hnone hwithin
    cases hnone.symm.trans (history_eq_some hwithin .checked)
  · intro h
    induction bumps generalizing v with
    | nil => exact absurd trivial h
    | cons severity bumps ih =>
      by_cases hoverflow : v.Overflows severity
      · rw [history, next?_checked_eq_none hoverflow]
        rfl
      · rw [history, next?_eq_some hoverflow, Option.bind_eq_bind, Option.bind_some,
          ih fun hwithin => h ⟨hoverflow, hwithin⟩]
        rfl

theorem isAbove_of_mem_versions {a w : Version} (hva : v.IsAbove a) {bumps : List Severity}
    (h : v.StaysWithin bumps) (hw : w ∈ v.versions bumps) : w.IsAbove a := by
  induction bumps generalizing v with
  | nil =>
    rw [List.mem_singleton.1 hw]
    exact hva
  | cons severity bumps ih =>
    rcases List.mem_cons.1 hw with rfl | hw
    · exact hva
    · exact ih ((isAbove_bump h.1).trans hva) h.2 hw

/-- **A history ascends**, if it stays within 64 bits. -/
theorem pairwise_isAbove_versions {bumps : List Severity} (h : v.StaysWithin bumps) :
    (v.versions bumps).Pairwise fun before after => after.IsAbove before := by
  induction bumps generalizing v with
  | nil => exact List.pairwise_singleton _ v
  | cons severity bumps ih =>
    exact List.pairwise_cons.2
      ⟨fun _ hw => isAbove_of_mem_versions (isAbove_bump h.1) h.2 hw, ih h.2⟩

theorem isWellFormed_of_mem_versions {w : Version} (h : v.IsWellFormed) {bumps : List Severity}
    (hw : w ∈ v.versions bumps) : w.IsWellFormed := by
  induction bumps generalizing v with
  | nil =>
    rw [List.mem_singleton.1 hw]
    exact h
  | cons severity bumps ih =>
    rcases List.mem_cons.1 hw with rfl | hw
    · exact h
    · exact ih (h.bump severity) hw

/-- **Versions go up, and their texts read back.** From a version that was read, with any
pre-release and build, bumps that stay within 64 bits lead through versions that ascend in the order
of versions, however the program was built. Every one of them is read from its text and from its
tag, with any blanks around them. The bumps of one version are greater for graver changes, whatever
version it is, up to the greatest number. -/
theorem history_ascends_isReadBack {s : String} (hread : read s = .ok v) {bumps : List Severity}
    (hwithin : v.StaysWithin bumps) :
    ∃ versions, (∀ arithmetic, v.history arithmetic bumps = some versions) ∧
      (versions.Pairwise fun before after => after.IsGreater before) ∧
      (∀ w ∈ versions, w.IsReadBack) ∧ ∀ w : Version, w.Fits → w.BumpsAscend := by
  refine ⟨v.versions bumps, history_eq_some hwithin, ?_, ?_, fun _ => Fits.bumpsAscend⟩
  · exact (pairwise_isAbove_versions hwithin).imp IsAbove.isGreater
  · intro w hw
    exact (isWellFormed_of_mem_versions (isWellFormed_of_read hread) hw).isReadBack

/-- A pre-release with a build is left by the first bump; its number has a leading zero, and is read
back with it. The last bump leads to the greatest number, which no further one may raise. -/
theorem history_ascends_isReadBack_preRelease :
    let v : Version :=
      ⟨maxNumber - 1, 2, 3, ["rc".toList, "1".toList], ["build".toList, "05".toList]⟩
    let bumps : List Severity := [.patch, .minor, .major]
    let versions := [v, ⟨maxNumber - 1, 2, 4, [], []⟩, ⟨maxNumber - 1, 3, 0, [], []⟩,
      ⟨maxNumber, 0, 0, [], []⟩]
    read "\tv18446744073709551614.2.3-rc.1+build.05\n" = .ok v ∧ v.StaysWithin bumps ∧
      (∀ arithmetic, v.history arithmetic bumps = some versions) ∧
      (versions.Pairwise fun before after => after.IsGreater before) ∧
      v.tag = "v18446744073709551614.2.3-rc.1+build.05" ∧ read (" " ++ v.tag ++ "\n") = .ok v ∧
      (v.bump .major).IsGreater (v.bump .minor) ∧ (v.bump .minor).IsGreater (v.bump .patch) ∧
      ¬ (bump ⟨maxNumber, 0, 0, [], []⟩ .major).IsGreater ⟨maxNumber, 0, 0, [], []⟩ := by
  intro v bumps versions
  have hread : read "\tv18446744073709551614.2.3-rc.1+build.05\n" = .ok v := rfl
  have hwithin : v.StaysWithin bumps := by
    refine ⟨?_, ?_, ?_, trivial⟩ <;> decide +kernel
  obtain ⟨_, hhistory, hascends, hback, hbumps⟩ := history_ascends_isReadBack hread hwithin
  have hversions : v.history .wrapping bumps = some versions := by decide +kernel
  cases (hhistory .wrapping).symm.trans hversions
  have htag : v.tag = "v18446744073709551614.2.3-rc.1+build.05" := by decide +kernel
  have hself : v.IsReadBack := hback v List.mem_cons_self
  have hv : v.BumpsAscend := hbumps v (by unfold Fits; decide +kernel)
  have hgreatest : BumpsAscend ⟨maxNumber, 0, 0, [], []⟩ :=
    hbumps _ (by unfold Fits; decide +kernel)
  refine ⟨hread, hwithin, hhistory, hascends, htag, (hself " " "\n" rfl rfl).2, ?_, ?_, ?_⟩
  · exact hv.major.2 (by decide +kernel)
  · exact hv.minor.2 (by decide +kernel)
  · exact fun hgreater => (hgreatest.greater .major).1 hgreater (by decide +kernel)

end ApiModels.Version
