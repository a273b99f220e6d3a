import ApiModels.Proofs.Swift.LineReading
import ApiModels.Proofs.Text.Lines

/-!
# Declarations whose source can be read

What a declaration may hold is bounded by what its lines can carry: identifiers, types of one word,
and doc lines that do not look like the doc line that names a source. The texts of enum cases and
the names in the data are arbitrary.

Every line of such a declaration is a line of the source (`isLine_sourceLines`): what is written
into it neither breaks it nor ends it in a carriage return.
-/

namespace ApiModels

namespace Swift

/-! ### Declarations that can be written -/

/-- A text for a doc line: not empty, in one line and without a blank at its end. -/
structure IsDocText (text : String) : Prop where
  ne_empty : text ≠ ""
  inOneLine : '\n' ∉ text.toList
  noBlankAtEnd : ∀ c ∈ text.toList.getLast?, Text.isBlank c = false

instance (text : String) : Decidable (IsDocText text) :=
  decidable_of_iff (text ≠ "" ∧ '\n' ∉ text.toList ∧
      text.toList.getLast?.all (!Text.isBlank ·) = true)
    ⟨fun h => ⟨h.1, h.2.1, by simpa [Option.all_eq_true] using h.2.2⟩,
      fun h => ⟨h.ne_empty, h.inOneLine, by simpa [Option.all_eq_true] using h.noBlankAtEnd⟩⟩

/-- The name of a source: the text of a doc line without a blank at its start. -/
structure IsSourceName (source : String) : Prop extends IsDocText source where
  noBlankAtStart : ∀ c ∈ source.toList.head?, Text.isBlank c = false

instance (source : String) : Decidable (IsSourceName source) :=
  decidable_of_iff (IsDocText source ∧ source.toList.head?.all (!Text.isBlank ·) = true)
    ⟨fun h => ⟨h.1, by simpa [Option.all_eq_true] using h.2⟩,
      fun h => ⟨h.toIsDocText, by simpa [Option.all_eq_true] using h.noBlankAtStart⟩⟩

/-- A text of the form of a doc line that names a source: one of the two headers, a separator and
more. -/
def NamesSource (isSeparator : Char → Bool) (text : String) : Prop :=
  ∃ header ∈ [modelHeader, enumHeader], ∃ c rest, isSeparator c = true ∧ rest ≠ [] ∧
    text.toList = header.toList ++ c :: rest

theorem namesSource_iff {isSeparator : Char → Bool} {text : String} :
    NamesSource isSeparator text ↔ ∃ header ∈ [modelHeader, enumHeader],
      ∃ tail ∈ Text.after? header.toList text.toList,
        tail.head?.any isSeparator = true ∧ tail.tail ≠ [] := by
  refine exists_congr fun header => and_congr_right fun _ => ?_
  constructor
  · rintro ⟨c, rest, hc, hrest, htext⟩
    exact ⟨c :: rest, Text.after?_eq_some_iff.2 htext, hc, hrest⟩
  · rintro ⟨tail, htail, hhead, hrest⟩
    cases tail with
    | nil => exact absurd rfl hrest
    | cons c rest => exact ⟨c, rest, hhead, hrest, Text.after?_eq_some_iff.1 htail⟩

instance (isSeparator : Char → Bool) (text : String) : Decidable (NamesSource isSeparator text) :=
  decidable_of_iff _ namesSource_iff.symm

/-- The source and the description of a declaration stand in doc lines, and without a source the
description is not taken for one. -/
structure AreDocs (isSeparator : Char → Bool) (source description : Option String) : Prop where
  sourceName : ∀ name ∈ source, IsSourceName name
  docText : ∀ text ∈ description, IsDocText text
  notNamesSource : source = none → ∀ text ∈ description, ¬ NamesSource isSeparator text

instance (isSeparator : Char → Bool) (source description : Option String) :
    Decidable (AreDocs isSeparator source description) :=
  decidable_of_iff ((∀ name ∈ source, IsSourceName name) ∧ (∀ text ∈ description, IsDocText text) ∧
      (source = none → ∀ text ∈ description, ¬ NamesSource isSeparator text))
    ⟨fun h => ⟨h.1, h.2.1, h.2.2⟩, fun h => ⟨h.sourceName, h.docText, h.notNamesSource⟩⟩

end Swift

/-- A property whose line can be read. -/
structure Property.IsWritable (p : Property) : Prop where
  name : Swift.IsIdentifier p.name
  type : Swift.IsTypeText p.type
  description : ∀ text ∈ p.description, Swift.IsDocText text

instance (p : Property) : Decidable p.IsWritable :=
  decidable_of_iff (Swift.IsIdentifier p.name ∧ Swift.IsTypeText p.type ∧
      ∀ text ∈ p.description, Swift.IsDocText text)
    ⟨fun h => ⟨h.1, h.2.1, h.2.2⟩, fun h => ⟨h.name, h.type, h.description⟩⟩

/-- A record whose lines can be read. -/
structure RecordType.IsWritable (isSeparator : Char → Bool) (r : RecordType) : Prop where
  name : Swift.IsIdentifier r.name
  docs : Swift.AreDocs isSeparator r.sourceName r.description
  properties : ∀ p ∈ r.properties, p.IsWritable
  distinct : (r.properties.map (·.name)).Nodup

instance (isSeparator : Char → Bool) (r : RecordType) : Decidable (r.IsWritable isSeparator) :=
  decidable_of_iff (Swift.IsIdentifier r.name ∧
      Swift.AreDocs isSeparator r.sourceName r.description ∧
      (∀ p ∈ r.properties, p.IsWritable) ∧ (r.properties.map (·.name)).Nodup)
    ⟨fun h => ⟨h.1, h.2.1, h.2.2.1, h.2.2.2⟩, fun h => ⟨h.name, h.docs, h.properties, h.distinct⟩⟩

/-- An enumeration whose lines can be read; the texts of its cases are arbitrary. -/
structure EnumType.IsWritable (isSeparator : Char → Bool) (e : EnumType) : Prop where
  name : Swift.IsIdentifier e.name
  docs : Swift.AreDocs isSeparator e.sourceName e.description
  cases : ∀ c ∈ e.cases, Swift.IsIdentifier c.identifier

instance (isSeparator : Char → Bool) (e : EnumType) : Decidable (e.IsWritable isSeparator) :=
  decidable_of_iff (Swift.IsIdentifier e.name ∧
      Swift.AreDocs isSeparator e.sourceName e.description ∧
      ∀ c ∈ e.cases, Swift.IsIdentifier c.identifier)
    ⟨fun h => ⟨h.1, h.2.1, h.2.2⟩, fun h => ⟨h.name, h.docs, h.cases⟩⟩

/-- A declaration whose lines can be read, if a doc line that names a source has one of the given
separators after its header. -/
def Declaration.IsWritable (isSeparator : Char → Bool) : Declaration → Prop
  | .record r => r.IsWritable isSeparator
  | .enum e => e.IsWritable isSeparator

instance (isSeparator : Char → Bool) (d : Declaration) : Decidable (d.IsWritable isSeparator) :=
  match d with
  | .record r => inferInstanceAs (Decidable (r.IsWritable isSeparator))
  | .enum e => inferInstanceAs (Decidable (e.IsWritable isSeparator))

namespace Swift

open Text (IsLine isBlank isLine_of_not_mem)

/-! ### Lines of a declaration -/

theorem IsDocText.isLine {text : String} (h : IsDocText text) : IsLine text.toList := by
  refine ⟨h.inOneLine, fun hlast => ?_⟩
  have hblank := h.noBlankAtEnd '\r' hlast
  exact absurd hblank (by decide)

theorem IsDocText.toList_ne_nil {text : String} (h : IsDocText text) : text.toList ≠ [] :=
  fun hnil => h.ne_empty (String.toList_eq_nil_iff.1 hnil)

theorem isLine_docLine {indent : Nat} {text : String} (h : IsDocText text) :
    IsLine (docLine indent text) := by
  refine h.isLine.append ?_ h.toList_ne_nil
  simp

theorem isLine_sourceLine {header name : String} (hheader : header ∈ [modelHeader, enumHeader])
    (h : IsSourceName name) : IsLine (sourceLine header name) := by
  have hfeed : '\n' ∉ header.toList := by
    simp only [List.mem_cons, List.not_mem_nil, or_false] at hheader
    rcases hheader with rfl | rfl <;> decide
  have hline : sourceLine header name =
      ("/// ".toList ++ header.toList ++ [' ']) ++ name.toList := by
    simp [sourceLine, docLine]
  rw [hline]
  refine h.isLine.append ?_ h.toList_ne_nil
  simp [hfeed]

theorem isLine_docLines {header : String} (hheader : header ∈ [modelHeader, enumHeader])
    {isSeparator : Char → Bool} {source description : Option String}
    (h : AreDocs isSeparator source description) :
    ∀ line ∈ docLines header source description, IsLine line := by
  intro line hline
  rcases List.mem_append.1 hline with hline | hline
  · obtain ⟨name, hname, rfl⟩ := Option.map_eq_some_iff.1 (Option.mem_toList.1 hline)
    exact isLine_sourceLine hheader (h.sourceName name hname)
  · obtain ⟨text, htext, rfl⟩ := Option.map_eq_some_iff.1 (Option.mem_toList.1 hline)
    exact isLine_docLine (h.docText text htext)

theorem isLine_openingLine (kind : DeclarationKind) {name : String} (h : IsIdentifier name)
    {conformances : List String} (hconf : IsLine (openingEnd conformances)) :
    IsLine (openingLine kind.name name conformances) := by
  have hkind : '\n' ∉ kind.name.toList := by cases kind <;> decide
  have hname : '\n' ∉ name.toList := h.not_mem (by decide)
  have hline : openingLine kind.name name conformances =
      ("public ".toList ++ kind.name.toList ++ [' '] ++ name.toList) ++
        openingEnd conformances := by
    rw [openingLine_eq]
    simp only [List.append_assoc]
    rfl
  rw [hline]
  refine hconf.append ?_ ?_
  · simp [hkind, hname]
  · simp [openingEnd]

theorem isLine_propertyLine {p : Property} (hname : IsIdentifier p.name)
    (htype : IsTypeText p.type) : IsLine (propertyLine .default p) := by
  have htypeChars := renderedType_chars htype
  have hnot : ∀ c, isBlank c = true → c ∉ "    public let : ".toList → c ≠ '\x60' →
      Naming.isIdentifierChar c = false → c ∉ propertyLine .default p := by
    intro c hblank hfixed hbacktick hc
    have hident := not_mem_identifier (p := .default) hname hc hbacktick
    have htype : c ∉ (p.renderedType "?").toList := by
      intro hmem
      exact Bool.false_ne_true ((htypeChars c hmem).1.symm.trans hblank)
    have hsplit : "    public let : ".toList = "    public let ".toList ++ [':', ' '] := by decide
    rw [hsplit, List.mem_append, not_or] at hfixed
    rw [propertyLine_eq, List.mem_append, not_or]
    refine ⟨hfixed.1, ?_⟩
    simp_all
  exact isLine_of_not_mem (hnot _ (by decide) (by decide) (by decide) (by decide))
    (hnot _ (by decide) (by decide) (by decide) (by decide))

theorem isLine_plainCaseLine (indent : Nat) {identifier : String} (h : IsIdentifier identifier) :
    IsLine (plainCaseLine indent .default identifier) :=
  isLine_of_not_mem (not_mem_plainCaseLine indent h (by decide) (by decide) (by decide))
    (not_mem_plainCaseLine indent h (by decide) (by decide) (by decide))

theorem isLine_literalCaseLine (indent : Nat) {identifier : String} (h : IsIdentifier identifier)
    (value : String) : IsLine (literalCaseLine indent .default identifier value) := by
  have hbefore : '\n' ∉ plainCaseLine indent .default identifier ++ " = \"".toList ++
      escape value.toList := by
    have hplain := (isLine_plainCaseLine indent h).noFeed
    have hescape := not_mem_escape (c := '\n') (by decide) value.toList
    simp [hplain, hescape]
  exact IsLine.append hbefore (by simp) (isLine_of_not_mem (by decide) (by decide))

theorem isLine_enumLines {isSeparator : Char → Bool} {e : EnumType} (h : e.IsWritable isSeparator) :
    ∀ line ∈ enumLines .default e, IsLine line := by
  intro line hline
  simp only [enumLines, List.mem_append, List.mem_singleton, List.mem_map] at hline
  rcases hline with ((hdoc | rfl) | ⟨c, hc, rfl⟩) | rfl
  · exact isLine_docLines (by simp) h.docs line hdoc
  · exact isLine_openingLine .enum h.name (isLine_of_not_mem (by decide) (by decide))
  · exact isLine_literalCaseLine 4 (h.cases c hc) c.value
  · exact isLine_of_not_mem (by decide) (by decide)

theorem isLine_propertyLines {p : Property} (h : p.IsWritable) :
    ∀ line ∈ propertyLines .default p, IsLine line := by
  intro line hline
  simp only [propertyLines, List.mem_append, List.mem_cons, List.not_mem_nil, or_false,
    Option.mem_toList, Option.map_eq_some_iff] at hline
  rcases hline with ⟨text, htext, rfl⟩ | rfl | rfl
  · exact isLine_docLine (h.description text htext)
  · exact isLine_propertyLine h.name h.type
  · exact isLine_of_not_mem (by decide) (by decide)

theorem isLine_codingKeyLine {p : Property} (h : IsIdentifier p.name) :
    IsLine (codingKeyLine .default p) := by
  unfold codingKeyLine
  split
  · exact isLine_plainCaseLine 8 h
  · exact isLine_literalCaseLine 8 h p.wireName

theorem isLine_codingKeysLines {properties : List Property}
    (h : ∀ p ∈ properties, IsIdentifier p.name) :
    ∀ line ∈ codingKeysLines .default properties, IsLine line := by
  intro line hline
  simp only [codingKeysLines, List.mem_append, List.mem_cons, List.not_mem_nil, or_false,
    List.mem_map] at hline
  rcases hline with (rfl | ⟨p, hp, rfl⟩) | rfl | rfl
  · exact isLine_of_not_mem (by decide) (by decide)
  · exact isLine_codingKeyLine (h p hp)
  · exact isLine_of_not_mem (by decide) (by decide)
  · exact isLine_of_not_mem (by decide) (by decide)

theorem isLine_recordLines {isSeparator : Char → Bool} {r : RecordType}
    (h : r.IsWritable isSeparator) : ∀ line ∈ recordLines .default r, IsLine line := by
  have hconf : IsLine (openingEnd (recordConformances .default r)) := by
    unfold recordConformances
    split
    · exact isLine_of_not_mem (by decide) (by decide)
    · exact isLine_of_not_mem (by decide) (by decide)
  intro line hline
  simp only [recordLines, List.mem_append, List.mem_singleton, List.mem_flatMap] at hline
  rcases hline with (((hdoc | rfl) | ⟨p, hp, hproperty⟩) | hkeys) | rfl
  · exact isLine_docLines (by simp) h.docs line hdoc
  · exact isLine_openingLine .struct h.name hconf
  · exact isLine_propertyLines (h.properties p hp) line hproperty
  · split at hkeys
    · exact isLine_codingKeysLines (fun p hp => (h.properties p hp).name) line hkeys
    · cases hkeys
  · exact isLine_of_not_mem (by decide) (by decide)

theorem isLine_sourceLines {isSeparator : Char → Bool} {declarations : List Declaration}
    (h : ∀ d ∈ declarations, d.IsWritable isSeparator) :
    ∀ line ∈ sourceLines .default declarations, IsLine line := by
  intro line hline
  simp only [sourceLines, List.mem_append, List.mem_flatMap, List.mem_singleton] at hline
  rcases hline with hheader | ⟨d, hd, hline | rfl⟩
  · have hlines : ∀ line ∈ headerLines, '\n' ∉ line ∧ '\r' ∉ line := by decide
    exact isLine_of_not_mem (hlines line hheader).1 (hlines line hheader).2
  · cases d with
    | record r => exact isLine_recordLines (h _ hd) line hline
    | enum e => exact isLine_enumLines (h _ hd) line hline
  · exact isLine_of_not_mem (by decide) (by decide)

end Swift

end ApiModels
