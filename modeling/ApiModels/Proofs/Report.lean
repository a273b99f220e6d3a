import ApiModels.Proofs.Declaration.Written
import ApiModels.Proofs.Json.Typed
import ApiModels.Report.Reading

/-!
# Reports are read back

A report is one object, in which the members of its differences stand beside those of its own, and
what is absent is left out. The reader keeps the former until the end (`memberSteps_jsonMembers`)
and puts each of the latter into its draft (`memberSteps_toJson`). The draft of a report gives the
report (`ofDraft_draft`), so nothing is lost, however the report is spelled (`read_of_spells`).
-/

namespace ApiModels

open Json

/-! ### Differences -/

theorem asVariant_name (severity : Severity) :
    asVariant .kept Severity.known (.text severity.name) = .ok severity := by
  cases severity <;> rfl

theorem asList_ofTexts (texts : List String) : asList asText (.ofTexts texts) = .ok texts := by
  have htext : ∀ s, asText (.text s) = .ok s := fun _ => rfl
  exact asList_map htext texts

theorem Diff.decode_jsonMembers (d : Diff) :
    Diff.record.decode .kept (.object d.jsonMembers) = .ok d := by
  have htexts (texts : List String) {put : List String → DiffDraft} :
      (asList asText (.ofTexts texts)).map put = .ok (put texts) :=
    congrArg (Except.map put) (asList_ofTexts texts)
  have hseverity {put : Severity → DiffDraft} :
      (asVariant .kept Severity.known (.text d.severity.name)).map put = .ok (put d.severity) :=
    congrArg (Except.map put) (asVariant_name d.severity)
  rw [Record.decode, jsonMembers, readMembers_cons rfl rfl (htexts _),
    readMembers_cons rfl rfl (htexts _), readMembers_cons rfl rfl (htexts _),
    readMembers_cons rfl rfl (htexts _), readMembers_cons rfl rfl (htexts _),
    readMembers_cons rfl rfl hseverity]
  rfl

theorem readable_ofTexts (texts : List String) (depth : Nat) :
    Readable (depth + 1) (.ofTexts texts) := readable_map .text texts

/-! ### Line counts -/

/-- The numbers of a report are numbers of 64 bits. -/
def TextStats.IsReadable (s : TextStats) : Prop := s.insertions ≤ maxWord ∧ s.deletions ≤ maxWord

theorem readsAs_asCount {fuel n : Nat} (h : n ≤ maxWord) :
    ReadsAs fuel (scalar fuel asCount) (.ofNat n) n := by
  have hlt : n < Nat.pow 2 64 := Nat.lt_of_le_sub_one (by decide) h
  exact readsAs_scalar (.nat h) (asNatBelow_ofNat hlt "usize")

theorem readsAs_readStats {fuel depth : Nat} {s : TextStats} (h : s.IsReadable) :
    ReadsAs fuel (readStats fuel (depth + 1)) (ChangeReport.statsJson s) (some s) := by
  have hinsertions := (@readsAs_asCount fuel _ h.1).map fun n => (⟨some n, none⟩ : TextStatsDraft)
  have hdeletions := (@readsAs_asCount fuel _ h.2).map fun n =>
    (⟨some s.insertions, some n⟩ : TextStatsDraft)
  have hstats : ReadsAs fuel ((TextStats.reading fuel).read fuel (depth + 1))
      (ChangeReport.statsJson s) s :=
    readsAs_read (.cons (readsMember_readMember rfl rfl hinsertions)
      (.cons (readsMember_readMember rfl rfl hdeletions) (.nil _))) rfl (Nat.succ_ne_zero _)
  intro cs rest hspells hfuel
  have hread := hstats.trimmed hspells hfuel
  cases hspells with
  | object hopen _ =>
    unfold readStats
    rw [hopen] at hread ⊢
    split
    · next heq => exact absurd (List.cons.inj heq).1 (by decide)
    · simp only [bind, pure, Except.bind, Except.pure, hread]

/-! ### Members -/

namespace ChangeReport

variable {fuel depth : Nat}

theorem readsMember_field {draft next : Draft} {name : String} {field : ReadingField Draft}
    {value : Json} (hfield : (fields fuel depth).find? (·.name == name) = some field)
    (hunset : field.isSet draft = false) (h : ReadsAs fuel (field.set draft) value next) :
    ReadsMember fuel (readMember fuel depth draft name) value next := by
  refine h.member fun cs inner hcolon => ?_
  unfold readMember
  rw [hfield]
  simp only [hunset, Bool.false_eq_true, if_false, bind, Except.bind, colon_eq hcolon]

theorem readsMember_other {name : String}
    (hname : (fields fuel depth).find? (·.name == name) = none) {value : Json}
    (hvalue : Readable depth value) (draft : Draft) :
    ReadsMember fuel (readMember fuel depth draft name) value
      { draft with others := (name, value) :: draft.others } := by
  refine ((readsAs_readValue hvalue fuel).map fun v =>
    { draft with others := (name, v) :: draft.others }).member fun cs inner hcolon => ?_
  unfold readMember
  rw [hname]
  simp only [bind, Except.bind, colon_eq hcolon]

theorem memberSteps_jsonMembers (d : Diff) (draft : Draft) :
    MemberSteps fuel (readMember fuel (depth + 1)) { draft with others := [] } d.jsonMembers
      { draft with others := d.jsonMembers.reverse } := by
  have hother : ∀ member ∈ d.jsonMembers,
      (fields fuel (depth + 1)).find? (·.name == member.1) = none ∧
        Readable (depth + 1) member.2 := by
    simp only [Diff.jsonMembers, List.forall_mem_cons]
    exact ⟨⟨rfl, readable_ofTexts _ _⟩, ⟨rfl, readable_ofTexts _ _⟩, ⟨rfl, readable_ofTexts _ _⟩,
      ⟨rfl, readable_ofTexts _ _⟩, ⟨rfl, readable_ofTexts _ _⟩, ⟨rfl, .text _⟩,
      fun _ h => nomatch h⟩
  have hsteps := @memberSteps_keep _ fuel (readMember fuel (depth + 1))
    (fun others => { draft with others := others }) d.jsonMembers
    (fun member hmember before =>
      readsMember_other (hother member hmember).1 (hother member hmember).2 _) []
  rwa [List.append_nil] at hsteps

/-- A member that may be left out: the state has it just as the report does. -/
theorem memberSteps_optionalMember {α σ : Type} {step : σ → String → Reader σ} {name : String}
    {encode : α → Json} (state : Option (Option α) → σ) (value : Option α)
    (h : ∀ a ∈ value,
      ReadsMember fuel (step (state none) name) (encode a) (state (some (some a)))) :
    MemberSteps fuel step (state none) (optionalMember name encode value)
      (state (value.map some)) := by
  cases value with
  | none => exact .nil _
  | some a => exact .cons (h a rfl) (.nil _)

theorem readsAs_text (s : String) : ReadsAs fuel (scalar fuel asText) (.text s) s :=
  readsAs_scalar (.text s) rfl

theorem readsAs_optionalText (s : String) :
    ReadsAs fuel (scalar fuel (asOption asText)) (.text s) (some s) :=
  readsAs_scalar (.text s) rfl

/-- All that the reader knows of a report at the end of its text. -/
def draft (r : ChangeReport) : Draft where
  rawChanged := some r.rawChanged
  oldChecksum := some r.oldChecksum.hex
  newChecksum := some r.newChecksum.hex
  stats := r.stats.map some
  currentVersion := r.currentVersion.map some
  nextVersion := r.nextVersion.map some
  others := r.diff.jsonMembers.reverse

theorem ofDraft_draft (r : ChangeReport) : ofDraft r.draft = .ok r := by
  have hjoin : ∀ {α : Type} (value : Option α), (value.map some).join = value := by
    intro α value
    cases value <;> rfl
  unfold ofDraft draft
  simp only [required, bind, pure, Except.bind, Except.pure, List.reverse_reverse,
    Diff.decode_jsonMembers, hjoin]

theorem memberSteps_identity (raw : Bool) (old new : String) (others : List (String × Json)) :
    MemberSteps fuel (readMember fuel depth) ⟨none, none, none, none, none, none, others⟩
      [("raw_model_file_changed", .bool raw), ("old_checksum", .text old),
        ("new_checksum", .text new)]
      ⟨some raw, some old, some new, none, none, none, others⟩ := by
  have hraw : ReadsAs fuel (scalar fuel asBool) (.bool raw) raw := readsAs_scalar (.bool raw) rfl
  have htext : ∀ s, ReadsAs fuel (scalar fuel asText) (.text s) s := readsAs_text
  have hrawStep := hraw.map fun raw =>
    (⟨some raw, none, none, none, none, none, others⟩ : Draft)
  have holdStep := (htext old).map fun old =>
    (⟨some raw, some old, none, none, none, none, others⟩ : Draft)
  have hnewStep := (htext new).map fun new =>
    (⟨some raw, some old, some new, none, none, none, others⟩ : Draft)
  exact .cons (readsMember_field rfl rfl hrawStep) (.cons (readsMember_field rfl rfl holdStep)
    (.cons (readsMember_field rfl rfl hnewStep) (.nil _)))

theorem memberSteps_optional {d : Draft}
    (hunset : d.stats = none ∧ d.currentVersion = none ∧ d.nextVersion = none)
    {stats : Option TextStats} (hstats : ∀ s ∈ stats, s.IsReadable)
    (current next : Option String) :
    MemberSteps fuel (readMember fuel (depth + 1)) d
      (optionalMember "text_stats" statsJson stats ++
        optionalMember "current_version" .text current ++
        optionalMember "next_version" .text next)
      { d with
        stats := stats.map some
        currentVersion := current.map some
        nextVersion := next.map some } := by
  obtain ⟨raw, old, new, _, _, _, others⟩ := d
  obtain ⟨rfl, rfl, rfl⟩ := hunset
  have htext : ∀ s, ReadsAs fuel (scalar fuel (asOption asText)) (.text s) (some s) :=
    readsAs_optionalText
  have hstatsStep : MemberSteps fuel (readMember fuel (depth + 1))
      ⟨raw, old, new, none, none, none, others⟩ (optionalMember "text_stats" statsJson stats)
      ⟨raw, old, new, stats.map some, none, none, others⟩ :=
    memberSteps_optionalMember (fun stats => ⟨raw, old, new, stats, none, none, others⟩) stats
      fun s hs => readsMember_field rfl rfl ((readsAs_readStats (hstats s hs)).map fun stats =>
        (⟨raw, old, new, some stats, none, none, others⟩ : Draft))
  have hcurrentStep : MemberSteps fuel (readMember fuel (depth + 1))
      ⟨raw, old, new, stats.map some, none, none, others⟩
      (optionalMember "current_version" .text current)
      ⟨raw, old, new, stats.map some, current.map some, none, others⟩ :=
    memberSteps_optionalMember
      (fun current => ⟨raw, old, new, stats.map some, current, none, others⟩) current
      fun s _ => readsMember_field rfl rfl ((htext s).map fun current =>
        (⟨raw, old, new, stats.map some, some current, none, others⟩ : Draft))
  have hnextStep : MemberSteps fuel (readMember fuel (depth + 1))
      ⟨raw, old, new, stats.map some, current.map some, none, others⟩
      (optionalMember "next_version" .text next)
      ⟨raw, old, new, stats.map some, current.map some, next.map some, others⟩ :=
    memberSteps_optionalMember
      (fun next => ⟨raw, old, new, stats.map some, current.map some, next, others⟩) next
      fun s _ => readsMember_field rfl rfl ((htext s).map fun next =>
        (⟨raw, old, new, stats.map some, current.map some, some next, others⟩ : Draft))
  exact (hstatsStep.append hcurrentStep).append hnextStep

/-! ### Reports -/

/-- The line counts of a report are numbers of 64 bits, if it has any. -/
def IsReadable (r : ChangeReport) : Prop := ∀ stats ∈ r.stats, stats.IsReadable

/-- **All members of a report are read into its draft.** -/
theorem memberSteps_toJson {r : ChangeReport} (h : r.IsReadable) :
    MemberSteps fuel (readMember fuel (depth + 1)) ⟨none, none, none, none, none, none, []⟩
      (r.diff.jsonMembers ++ r.ownMembers) r.draft :=
  (memberSteps_jsonMembers r.diff ⟨none, none, none, none, none, none, []⟩).append
    ((memberSteps_identity _ _ _ _).append (memberSteps_optional ⟨rfl, rfl, rfl⟩ h _ _))

/-- **A report is read back**, however it is spelled. -/
theorem readsAs_reader {r : ChangeReport} (h : r.IsReadable) :
    ReadsAs fuel (reader fuel (depth + 2)) r.toJson r := by
  rw [toJson_eq]
  intro cs rest hspells hfuel
  cases hspells with
  | @object _ _ inner _ hopen hspells =>
    have hinner : inner.length ≤ fuel := (length_lt_of_skipSpaces_eq_cons hopen).le.trans hfuel
    have hrun : objectMembers (readMember fuel (depth + 1)) fuel true
        ⟨none, none, none, none, none, none, []⟩ inner = .ok (r.draft, rest) :=
      objectMembers_of_spells (memberSteps_toJson h) hspells hinner hinner
    unfold reader
    rw [hopen]
    simp only [bind, pure, Except.bind, Except.pure, hrun, ofDraft_draft]

theorem readable_toJson {r : ChangeReport} (h : r.IsReadable) : Readable (depth + 2) r.toJson := by
  rw [toJson_eq]
  refine .object ?_
  have hoptional : ∀ {α : Type} (name : String) {encode : α → Json} (value : Option α),
      (∀ a ∈ value, Readable (depth + 1) (encode a)) →
        ∀ member ∈ optionalMember name encode value, Readable (depth + 1) member.2 := by
    intro α name encode value hvalue member hmember
    cases value with
    | none => cases hmember
    | some a =>
      rw [List.mem_singleton.1 hmember]
      exact hvalue a rfl
  have hstats : ∀ s ∈ r.stats, Readable (depth + 1) (statsJson s) := fun s hs =>
    .object (List.forall_mem_cons.2
      ⟨.nat (h s hs).1, List.forall_mem_singleton.2 (.nat (h s hs).2)⟩)
  simp only [ownMembers, List.forall_mem_append, Diff.jsonMembers, List.forall_mem_cons]
  refine ⟨?_, ?_, ⟨hoptional _ _ hstats, hoptional _ _ fun s _ => .text s⟩,
    hoptional _ _ fun s _ => .text s⟩
  · exact ⟨readable_ofTexts _ _, readable_ofTexts _ _, readable_ofTexts _ _, readable_ofTexts _ _,
      readable_ofTexts _ _, .text _, fun _ hmember => nomatch hmember⟩
  · exact ⟨.bool _, .text _, .text _, fun _ hmember => nomatch hmember⟩

theorem read_of_spells {r : ChangeReport} (h : r.IsReadable) {text : String}
    (hspells : Spells r.toJson text.toList []) : read text = .ok r := by
  have hreads : ReadsAs (text.length + 1) (reader (text.length + 1) maxDepth) r.toJson r :=
    readsAs_reader h
  exact readTyped_eq_ok hreads hspells (Nat.le_succ _)

/-- **The text of a report loses nothing.** Whatever strings it holds and whatever is absent, a
report is read back from its JSON text, and so its summary is the same. -/
theorem read_pretty {r : ChangeReport} (h : r.IsReadable) :
    read r.pretty = .ok r ∧ (read r.pretty).map markdown = .ok r.markdown := by
  have hreadable : Readable 2 r.toJson := readable_toJson h
  have hread : read r.pretty = .ok r := read_of_spells h (spells_pretty hreadable)
  exact ⟨hread, congrArg (Except.map markdown) hread⟩

/-- Strings with quotes, braces and line breaks, the greatest count, and no current version. -/
theorem read_pretty_quoted :
    let diff : Diff := ⟨["Pet\"\n"], [], ["\x7b\\"], ["Pet.name: String?", ""], ["é\x00"], .major⟩
    let r : ChangeReport := ⟨diff, true, ⟨""⟩, ⟨"\t"⟩, some ⟨0, maxWord⟩, none, some "2.0.0-rc.1"⟩
    r.IsReadable ∧ read r.pretty = .ok r ∧ (read r.pretty).map markdown = .ok r.markdown := by
  intro diff r
  have h : r.IsReadable := by
    rintro stats ⟨⟩
    exact ⟨Nat.zero_le _, Nat.le_refl _⟩
  exact ⟨h, read_pretty h⟩

end ChangeReport

end ApiModels
