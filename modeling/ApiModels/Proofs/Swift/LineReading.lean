import ApiModels.Proofs.Swift.CodeLine
import ApiModels.Proofs.Swift.Identifier

/-!
# Reading the lines that are written

For each kind of line of code that is written there is what the recognisers make of it.

* The opening of a type gives its kind, its name and its conformances (`typeOpening?_openingLine`).
* A property gives its identifier, its type and whether it may be absent
  (`property?_propertyLine`).
* A case gives its identifier and its literal (`lineCases_plainCaseLine`,
  `lineCases_literalCaseLine`).
-/

namespace ApiModels.Swift

open Text (isBlank trim trimStart trimEnd)

/-! ### Words -/

theorem skipWords_of_some {words : List String} {cs rest : List Char}
    (h : afterAnyWord? words cs = some rest) : skipWords words cs = skipWords words rest := by
  rw [skipWords]
  split
  · next rest' h' =>
    cases h.symm.trans h'
    rfl
  · next h' => cases h.symm.trans h'

theorem skipWords_of_none {words : List String} {cs : List Char}
    (h : afterAnyWord? words cs = none) : skipWords words cs = cs := by
  rw [skipWords]
  split
  · next h' => cases h.symm.trans h'
  · rfl

theorem not_mem_identifier {p : RenderProfile} {name : String} (h : IsIdentifier name) {c : Char}
    (hc : Naming.isIdentifierChar c = false) (hbacktick : c ≠ '\x60') :
    c ∉ (p.identifier name).toList := by
  have hname := h.not_mem hc
  unfold RenderProfile.identifier
  split
  · simp [hname, hbacktick]
  · exact hname

theorem braceSum_identifier {p : RenderProfile} {name : String} (h : IsIdentifier name) :
    braceSum (p.identifier name).toList = 0 := by
  refine braceSum_eq_zero fun c hc => ⟨?_, ?_⟩
  · rintro rfl
    exact not_mem_identifier h rfl (by decide) hc
  · rintro rfl
    exact not_mem_identifier h rfl (by decide) hc

/-! ### Openings of types -/

/-- The end of an opening line, after the name. -/
def openingEnd (conformances : List String) : List Char :=
  ": ".toList ++ (String.intercalate ", " conformances).toList ++ " \x7b".toList

theorem openingLine_eq (keyword name : String) (conformances : List String) :
    openingLine keyword name conformances = "public ".toList ++
      (keyword.toList ++ ' ' :: (name.toList ++ openingEnd conformances)) := by
  unfold openingLine openingEnd
  simp only [List.append_assoc]
  rfl

/-- Conformances that an opening line can hold: they are read back, and the line is code. -/
structure IsReadable (conformances : List String) : Prop where
  read : conformances? (openingEnd conformances) = some (conformances.map String.toList)
  quote : '"' ∉ openingEnd conformances
  slash : '/' ∉ openingEnd conformances
  braces : braceSum (openingEnd conformances) = 1

theorem isReadable_enumConformances : IsReadable RenderProfile.default.enumConformances :=
  ⟨by decide, by decide, by decide, by decide⟩

theorem isReadable_recordConformances (r : RecordType) :
    IsReadable (recordConformances .default r) := by
  unfold recordConformances
  split
  · exact ⟨by decide, by decide, by decide, by decide⟩
  · exact ⟨by decide, by decide, by decide, by decide⟩

theorem typeOpening?_eq_some {code rest tail name : List Char} {kind : DeclarationKind}
    {conformances : List (List Char)}
    (hkind : typeKeyword? (skipWords typeModifiers (trimStart code)) = some (kind, rest))
    (hname : identifier? rest = some (name, tail))
    (hconf : conformances? tail = some conformances) :
    typeOpening? code = some ⟨kind, name, conformances⟩ := by
  simp [typeOpening?, hkind, hname, hconf]

theorem typeOpening?_eq_none {code : List Char}
    (hkind : typeKeyword? (skipWords typeModifiers (trimStart code)) = none) :
    typeOpening? code = none := by
  simp [typeOpening?, hkind]

theorem typeKeyword?_opening (kind : DeclarationKind) (rest : List Char) :
    typeKeyword? (skipWords typeModifiers
      ("public ".toList ++ (kind.name.toList ++ ' ' :: rest))) = some (kind, trimStart rest) := by
  have hpublic : afterAnyWord? typeModifiers
      ("public ".toList ++ (kind.name.toList ++ ' ' :: rest)) =
      some (kind.name.toList ++ ' ' :: rest) := by cases kind <;> rfl
  have hkind : afterAnyWord? typeModifiers (kind.name.toList ++ ' ' :: rest) = none := by
    cases kind <;> rfl
  rw [skipWords_of_some hpublic, skipWords_of_none hkind]
  cases kind <;> rfl

theorem typeOpening?_openingLine (kind : DeclarationKind) {name : String} (h : IsIdentifier name)
    {conformances : List String} (hconf : IsReadable conformances) :
    typeOpening? (openingLine kind.name name conformances) =
      some ⟨kind, name.toList, conformances.map String.toList⟩ := by
  have hstart : trimStart (openingLine kind.name name conformances) = "public ".toList ++
      (kind.name.toList ++ ' ' :: (name.toList ++ openingEnd conformances)) := by
    rw [openingLine_eq]
    rfl
  have hname : trimStart (name.toList ++ openingEnd conformances) =
      name.toList ++ openingEnd conformances := by
    obtain ⟨c, tail, heq, hc, -⟩ := h
    rw [heq, List.cons_append, Text.trimStart_cons_of_not_blank
      (isBlank_eq_false_of_isIdentifierChar (isIdentifierChar_of_isIdentifierStart hc))]
  have hkind : typeKeyword? (skipWords typeModifiers
      (trimStart (openingLine kind.name name conformances))) =
      some (kind, name.toList ++ openingEnd conformances) := by
    rw [hstart, typeKeyword?_opening, hname]
  exact typeOpening?_eq_some hkind (identifier?_append h fun c hc => by cases hc; rfl) hconf.read

theorem isCode_openingLine (kind : DeclarationKind) {name : String} (h : IsIdentifier name)
    {conformances : List String} (hconf : IsReadable conformances) :
    IsCode (openingLine kind.name name conformances) 1 := by
  have hplain : ∀ {c : Char}, Naming.isIdentifierChar c = false → c ≠ ' ' →
      c ∉ openingEnd conformances → c ∉ openingLine kind.name name conformances := by
    intro c hc hspace hend
    have hpublic : c ∉ "public ".toList := not_mem_words (by decide) hc hspace
    have hkind : ∀ d ∈ kind.name.toList, Naming.isIdentifierChar d = true := by
      cases kind <;> exact List.all_eq_true.1 (by decide)
    rw [openingLine_eq]
    simp only [List.mem_append, List.mem_cons, not_or]
    exact ⟨hpublic, fun hmem => ne_of_isIdentifierChar (hkind c hmem) hc rfl, hspace,
      h.not_mem hc, hend⟩
  have hbraces : braceSum (openingLine kind.name name conformances) = 1 := by
    have hname : braceSum name.toList = 0 := braceSum_eq_zero fun c hc =>
      ⟨ne_of_isIdentifierChar (h.isIdentifierChar hc) rfl,
        ne_of_isIdentifierChar (h.isIdentifierChar hc) rfl⟩
    have hkind : braceSum kind.name.toList = 0 := by cases kind <;> decide
    have hpublic : braceSum "public ".toList = 0 := by decide
    have hspace : braceSum [' '] = 0 := by decide
    rw [openingLine_eq, List.append_cons, braceSum_append, braceSum_append, braceSum_append,
      braceSum_append, hpublic, hkind, hspace, hname, hconf.braces]
    rfl
  have hstart : trimStart (openingLine kind.name name conformances) =
      'p' :: "ublic ".toList ++
        (kind.name.toList ++ ' ' :: (name.toList ++ openingEnd conformances)) := by
    rw [openingLine_eq]
    rfl
  exact hbraces ▸ isCode_of_plain hstart (hplain rfl (by decide) hconf.quote)
    (hplain rfl (by decide) hconf.slash)

/-! ### Properties -/

/-- A text that can stand as the type of a property: it is not empty and has no blanks and none of
the characters that mean something else on its line. -/
structure IsTypeText (type : String) : Prop where
  ne_empty : type ≠ ""
  allowed : ∀ c ∈ type.toList, isBlank c = false ∧ c ∉ ['=', '?', '"', '/', '\x7b', '\x7d']

theorem isTypeText_iff {type : String} : IsTypeText type ↔ type ≠ "" ∧ type.toList.all (fun c =>
    !isBlank c && !(['=', '?', '"', '/', '\x7b', '\x7d'].contains c)) = true := by
  constructor
  · intro h
    refine ⟨h.ne_empty, List.all_eq_true.2 fun c hc => ?_⟩
    simpa using h.allowed c hc
  · rintro ⟨hne, hall⟩
    refine ⟨hne, fun c hc => ?_⟩
    simpa using List.all_eq_true.1 hall c hc

instance (type : String) : Decidable (IsTypeText type) := decidable_of_iff _ isTypeText_iff.symm

namespace IsTypeText

variable {type : String}

theorem not_mem (h : IsTypeText type) {c : Char} (hc : c ∈ ['=', '?', '"', '/', '\x7b', '\x7d']) :
    c ∉ type.toList :=
  fun hmem => (h.allowed c hmem).2 hc

end IsTypeText

/-- A written type: with its mark it is one word, in which nothing is set to a value. -/
theorem renderedType_chars {p : Property} (h : IsTypeText p.type) :
    ∀ c ∈ (p.renderedType "?").toList,
      isBlank c = false ∧ c ∉ ['=', '"', '/', '\x7b', '\x7d'] := by
  have htype : ∀ c ∈ p.type.toList, isBlank c = false ∧ c ∉ ['=', '"', '/', '\x7b', '\x7d'] := by
    intro c hc
    have hsubset : ['=', '"', '/', '\x7b', '\x7d'] ⊆ ['=', '?', '"', '/', '\x7b', '\x7d'] := by
      simp
    exact ⟨(h.allowed c hc).1, fun hmem => (h.allowed c hc).2 (hsubset hmem)⟩
  unfold Property.renderedType
  split
  · intro c hc
    rw [String.toList_append, List.mem_append] at hc
    rcases hc with hc | hc
    · exact htype c hc
    · rw [List.mem_singleton.1 hc]
      decide
  · exact htype

theorem trim_renderedType {p : Property} (h : IsTypeText p.type) :
    trim (' ' :: (p.renderedType "?").toList) = (p.renderedType "?").toList := by
  have hspace : trimStart (' ' :: (p.renderedType "?").toList) =
      trimStart (p.renderedType "?").toList := rfl
  have hblank : ∀ c ∈ (p.renderedType "?").toList, isBlank c = false :=
    fun c hc => (renderedType_chars h c hc).1
  have htrim := Text.trim_eq_self (fun c hc => hblank c (List.mem_of_head? hc))
    (fun c hc => hblank c (List.mem_of_getLast? hc))
  rwa [trim, hspace, ← trim]

theorem splitOptional_renderedType {p : Property} (h : IsTypeText p.type) :
    splitOptional (p.renderedType "?").toList = (p.type.toList, p.isOptional) := by
  unfold Property.renderedType
  cases p.isOptional with
  | true =>
    have hlast : ∀ c ∈ p.type.toList.getLast?, isBlank c = false :=
      fun c hc => (h.allowed c (List.mem_of_getLast? hc)).1
    simp [splitOptional, Text.trimEnd_eq_self hlast]
  | false =>
    have hmark := h.not_mem (c := '?') (by decide)
    simp only [splitOptional]
    split
    · next rest heq =>
      refine absurd ?_ hmark
      rw [← List.mem_reverse]
      simp_all
    · rfl

theorem propertyLine_eq (p : Property) : propertyLine .default p = "    public let ".toList ++
    ((RenderProfile.default.identifier p.name).toList ++ ':' :: ' ' ::
      (p.renderedType "?").toList) := by
  unfold propertyLine
  simp only [List.append_assoc]
  rfl

theorem property?_propertyLine {p : Property} (hname : IsIdentifier p.name)
    (htype : IsTypeText p.type) :
    property? (propertyLine .default p) = some ⟨p.name.toList, p.type.toList, p.isOptional⟩ := by
  have hwords : afterAnyWord? ["let", "var"]
      (skipWords propertyModifiers (trimStart (propertyLine .default p))) =
      some ((RenderProfile.default.identifier p.name).toList ++
        ':' :: ' ' :: (p.renderedType "?").toList) := by
    have htrim := (isSpelling_identifier .default p.name).trimStart_append hname
      (':' :: ' ' :: (p.renderedType "?").toList)
    rw [propertyLine_eq]
    generalize (RenderProfile.default.identifier p.name).toList ++
      ':' :: ' ' :: (p.renderedType "?").toList = rest at htrim
    have hpublic : afterAnyWord? propertyModifiers ("public let ".toList ++ rest) =
        some ("let ".toList ++ rest) := rfl
    have hlet : afterAnyWord? propertyModifiers ("let ".toList ++ rest) = none := rfl
    have hstart : trimStart ("    public let ".toList ++ rest) = "public let ".toList ++ rest := rfl
    have hword : afterAnyWord? ["let", "var"] ("let ".toList ++ rest) = some (trimStart rest) := rfl
    rw [hstart, skipWords_of_some hpublic, skipWords_of_none hlet, hword, htrim]
  have hhead : ∀ c ∈ (':' :: ' ' :: (p.renderedType "?").toList).head?,
      Naming.isIdentifierChar c = false := fun c hc => by cases hc; rfl
  obtain ⟨tail, hident, htail⟩ :=
    (isSpelling_identifier .default p.name).identifier?_skipBacktick hname hhead (by simp)
  have hdeclared : (' ' :: (p.renderedType "?").toList).takeWhile (· != '=') =
      ' ' :: (p.renderedType "?").toList := by
    have hall : ∀ c ∈ ' ' :: (p.renderedType "?").toList, (c != '=') = true := by
      intro c hc
      rcases List.mem_cons.1 hc with rfl | hc
      · rfl
      · have hallowed := (renderedType_chars htype c hc).2
        simp only [List.mem_cons, not_or] at hallowed
        simp [hallowed.1]
    have htake : (' ' :: (p.renderedType "?").toList ++ []).takeWhile (· != '=') =
        ' ' :: (p.renderedType "?").toList ++ [].takeWhile (· != '=') :=
      List.takeWhile_append_of_pos hall
    simpa using htake
  have hcolon : trimStart (':' :: ' ' :: (p.renderedType "?").toList) =
      ':' :: ' ' :: (p.renderedType "?").toList := rfl
  simp [property?, hwords, hident, htail, hcolon, hdeclared, trim_renderedType htype,
    splitOptional_renderedType htype]

theorem typeOpening?_propertyLine (p : Property) :
    typeOpening? (propertyLine .default p) = none := by
  rw [propertyLine_eq]
  generalize (RenderProfile.default.identifier p.name).toList ++
    ':' :: ' ' :: (p.renderedType "?").toList = rest
  have hpublic : afterAnyWord? typeModifiers ("public let ".toList ++ rest) =
      some ("let ".toList ++ rest) := rfl
  have hlet : afterAnyWord? typeModifiers ("let ".toList ++ rest) = none := rfl
  have hstart : trimStart ("    public let ".toList ++ rest) = "public let ".toList ++ rest := rfl
  refine typeOpening?_eq_none ?_
  rw [hstart, skipWords_of_some hpublic, skipWords_of_none hlet]
  rfl

theorem isCode_propertyLine {p : Property} (hname : IsIdentifier p.name)
    (htype : IsTypeText p.type) : IsCode (propertyLine .default p) 0 := by
  have htypeChars : ∀ {c : Char}, c ∈ ['=', '"', '/', '\x7b', '\x7d'] →
      c ∉ (p.renderedType "?").toList :=
    fun hc hmem => (renderedType_chars htype _ hmem).2 hc
  have hquote : '"' ∉ propertyLine .default p := by
    rw [propertyLine_eq]
    have hident := not_mem_identifier (p := .default) (c := '"') hname rfl (by decide)
    have hrendered := htypeChars (c := '"') (by decide)
    simp [hident, hrendered]
  have hslash : '/' ∉ propertyLine .default p := by
    rw [propertyLine_eq]
    have hident := not_mem_identifier (p := .default) (c := '/') hname rfl (by decide)
    have hrendered := htypeChars (c := '/') (by decide)
    simp [hident, hrendered]
  have hbraces : braceSum (propertyLine .default p) = 0 := by
    have hpublic : braceSum "    public let ".toList = 0 := by decide
    have hcolon : braceSum [':', ' '] = 0 := by decide
    have hrendered : braceSum (p.renderedType "?").toList = 0 := braceSum_eq_zero fun c hc =>
      ⟨fun h => htypeChars (by decide) (h ▸ hc), fun h => htypeChars (by decide) (h ▸ hc)⟩
    rw [propertyLine_eq, List.append_cons, List.append_cons, braceSum_append, braceSum_append,
      List.append_assoc, braceSum_append, hpublic, braceSum_identifier hname, hrendered]
    exact hcolon
  have hstart : trimStart (propertyLine .default p) = 'p' :: ("ublic let ".toList ++
      ((RenderProfile.default.identifier p.name).toList ++ ':' :: ' ' ::
        (p.renderedType "?").toList)) := by
    rw [propertyLine_eq]
    rfl
  exact hbraces ▸ isCode_of_plain hstart hquote hslash

/-! ### Cases -/

theorem literalBody?_escapeChar (c : Char) (s : List Char) :
    literalBody? (escapeChar c ++ s) =
      (literalBody? s).map fun (body, rest) => (escapeChar c ++ body, rest) := by
  unfold escapeChar
  repeat' split
  all_goals try rfl
  rw [List.singleton_append, literalBody?.eq_def]
  split <;> simp_all

theorem literalBody?_escape (cs rest : List Char) :
    literalBody? (escape cs ++ '"' :: rest) = some (escape cs, rest) := by
  induction cs with
  | nil => rfl
  | cons c cs ih =>
    have hcons : escape (c :: cs) = escapeChar c ++ escape cs := rfl
    rw [hcons, List.append_assoc, literalBody?_escapeChar, ih]
    rfl

theorem caseItems_nil : caseItems [] = [] := by
  rw [caseItems]
  rfl

theorem caseItems_of_some {cs rest : List Char} {item : CaseItem}
    (h : caseItem? cs = some (item, rest)) : caseItems cs = item :: caseItems rest := by
  rw [caseItems]
  split
  · next h' =>
    cases h.symm.trans h'
    rfl
  · next h' => cases h.symm.trans h'

theorem literalCaseLine_eq (indent : Nat) (identifier value : String) :
    literalCaseLine indent .default identifier value =
      (plainCaseLine indent .default identifier ++ " = ".toList) ++
        '"' :: escape value.toList ++ ['"'] := by
  unfold literalCaseLine
  simp only [List.append_assoc]
  rfl

theorem trimStart_plainCaseLine (indent : Nat) (identifier : String) (rest : List Char) :
    trimStart (plainCaseLine indent .default identifier ++ rest) = "case ".toList ++
      ((RenderProfile.default.identifier identifier).toList ++ rest) := by
  unfold plainCaseLine
  rw [List.append_assoc, List.append_assoc,
    Text.trimStart_append_of_blank isBlank_of_mem_replicate]
  rfl

theorem typeOpening?_caseLine (indent : Nat) (identifier : String) (rest : List Char) :
    typeOpening? (plainCaseLine indent .default identifier ++ rest) = none := by
  refine typeOpening?_eq_none ?_
  rw [trimStart_plainCaseLine]
  generalize (RenderProfile.default.identifier identifier).toList ++ rest = tail
  have hcase : afterAnyWord? typeModifiers ("case ".toList ++ tail) = none := rfl
  rw [skipWords_of_none hcase]
  rfl

/-- However the identifier of a case is written, the case is looked for behind the keyword. -/
theorem lineCases_case {identifier : String} {written : List Char}
    (hwritten : IsSpelling identifier written) (h : IsIdentifier identifier) (indent : Nat)
    (rest : List Char) :
    lineCases (List.replicate indent ' ' ++ "case ".toList ++ written ++ rest) =
      caseItems (written ++ rest) := by
  have htrim := hwritten.trimStart_append h rest
  have hstart : trimStart (List.replicate indent ' ' ++ "case ".toList ++ written ++ rest) =
      "case ".toList ++ (written ++ rest) := by
    rw [List.append_assoc, List.append_assoc,
      Text.trimStart_append_of_blank isBlank_of_mem_replicate]
    rfl
  rw [lineCases, hstart]
  generalize written ++ rest = tail at htrim
  have hindirect : afterWord? "indirect" ("case ".toList ++ tail) = none := rfl
  have hcase : afterWord? "case" ("case ".toList ++ tail) = some (trimStart tail) := rfl
  simp only [hindirect, Option.getD_none, hcase, htrim]

theorem lineCases_plainCaseLine (indent : Nat) {identifier : String}
    (h : IsIdentifier identifier) :
    lineCases (plainCaseLine indent .default identifier) = [⟨identifier.toList, none⟩] := by
  have hwritten := isSpelling_identifier .default identifier
  have hhead : ∀ c ∈ [].head?, Naming.isIdentifierChar c = false := fun c hc => nomatch hc
  obtain ⟨tail, hident, htail⟩ := hwritten.identifier?_skipBacktick h hhead (by simp)
  have hitem : caseItem? ((RenderProfile.default.identifier identifier).toList ++ []) =
      some (⟨identifier.toList, none⟩, []) := by
    rw [caseItem?, hident, Option.map_some]
    simp only [htail]
    rfl
  have hline := lineCases_case hwritten h indent []
  rwa [List.append_nil, caseItems_of_some hitem, caseItems_nil] at hline

/-- A case is read with its literal, whatever characters that stands for. -/
theorem caseItem?_literal {identifier : String} {written : List Char}
    (hwritten : IsSpelling identifier written) (h : IsIdentifier identifier)
    (value rest : List Char) :
    caseItem? (written ++ (" = \"".toList ++ (escape value ++ '"' :: rest))) =
      some (⟨identifier.toList, some value⟩, rest) := by
  have hhead : ∀ c ∈ (" = \"".toList ++ (escape value ++ '"' :: rest)).head?,
      Naming.isIdentifierChar c = false := fun c hc => by cases hc; rfl
  obtain ⟨tail, hident, htail⟩ := hwritten.identifier?_skipBacktick h hhead (by simp)
  have hvalue : caseValue? (" = \"".toList ++ (escape value ++ '"' :: rest)) =
      some (value, rest) := by
    have hequals : trimStart (" = \"".toList ++ (escape value ++ '"' :: rest)) =
        '=' :: ' ' :: '"' :: (escape value ++ '"' :: rest) := rfl
    have hopen : trimStart (' ' :: '"' :: (escape value ++ '"' :: rest)) =
        '"' :: (escape value ++ '"' :: rest) := rfl
    rw [caseValue?, hequals]
    simp only [hopen, literalBody?_escape, Option.map_some, unescape_escape]
  rw [caseItem?, hident, Option.map_some]
  simp only [htail, hvalue]

theorem lineCases_literal {identifier : String} {written : List Char}
    (hwritten : IsSpelling identifier written) (h : IsIdentifier identifier) (indent : Nat)
    (value : List Char) :
    lineCases (List.replicate indent ' ' ++ "case ".toList ++ written ++
      (" = \"".toList ++ (escape value ++ ['"']))) = [⟨identifier.toList, some value⟩] := by
  rw [lineCases_case hwritten h, caseItems_of_some (caseItem?_literal hwritten h value []),
    caseItems_nil]

theorem lineCases_literalCaseLine (indent : Nat) {identifier : String}
    (h : IsIdentifier identifier) (value : String) :
    lineCases (literalCaseLine indent .default identifier value) =
      [⟨identifier.toList, some value.toList⟩] := by
  have hline : literalCaseLine indent .default identifier value = List.replicate indent ' ' ++
      "case ".toList ++ (RenderProfile.default.identifier identifier).toList ++
        (" = \"".toList ++ (escape value.toList ++ ['"'])) := by
    unfold literalCaseLine plainCaseLine
    simp only [List.append_assoc]
  rw [hline]
  exact lineCases_literal (isSpelling_identifier .default identifier) h indent value.toList

theorem not_mem_plainCaseLine (indent : Nat) {identifier : String} (h : IsIdentifier identifier)
    {c : Char} (hc : Naming.isIdentifierChar c = false) (hbacktick : c ≠ '\x60')
    (hspace : c ≠ ' ') :
    c ∉ plainCaseLine indent .default identifier := by
  have hindent : c ∉ List.replicate indent ' ' := fun hmem => hspace (List.eq_of_mem_replicate hmem)
  have hcase : c ∉ "case ".toList := not_mem_words (by decide) hc hspace
  have hident := not_mem_identifier (p := .default) h hc hbacktick
  unfold plainCaseLine
  simp only [List.mem_append, not_or]
  exact ⟨⟨hindent, hcase⟩, hident⟩

theorem braceSum_plainCaseLine (indent : Nat) {identifier : String} (h : IsIdentifier identifier) :
    braceSum (plainCaseLine indent .default identifier) = 0 := by
  refine braceSum_eq_zero fun c hc => ⟨?_, ?_⟩
  · rintro rfl
    exact not_mem_plainCaseLine indent h rfl (by decide) (by decide) hc
  · rintro rfl
    exact not_mem_plainCaseLine indent h rfl (by decide) (by decide) hc

theorem isCode_plainCaseLine (indent : Nat) {identifier : String} (h : IsIdentifier identifier) :
    IsCode (plainCaseLine indent .default identifier) 0 := by
  have hstart : trimStart (plainCaseLine indent .default identifier) = 'c' :: ("ase ".toList ++
      ((RenderProfile.default.identifier identifier).toList ++ [])) := by
    have hline := trimStart_plainCaseLine indent identifier []
    rwa [List.append_nil] at hline
  exact braceSum_plainCaseLine indent h ▸ isCode_of_plain hstart
    (not_mem_plainCaseLine indent h rfl (by decide) (by decide))
    (not_mem_plainCaseLine indent h rfl (by decide) (by decide))

theorem isCode_literalCaseLine (indent : Nat) {identifier : String} (h : IsIdentifier identifier)
    (value : String) : IsCode (literalCaseLine indent .default identifier value) 0 := by
  have hequals : ∀ {c : Char}, c ∉ plainCaseLine indent .default identifier →
      c ∉ " = ".toList → c ∉ plainCaseLine indent .default identifier ++ " = ".toList :=
    fun hline hequals hmem => (List.mem_append.1 hmem).elim hline hequals
  have hbraces : braceSum (plainCaseLine indent .default identifier ++ " = ".toList) = 0 := by
    rw [braceSum_append, braceSum_plainCaseLine indent h]
    decide
  have hstart : trimStart (plainCaseLine indent .default identifier ++ " = ".toList) =
      'c' :: ("ase ".toList ++
        ((RenderProfile.default.identifier identifier).toList ++ " = ".toList)) :=
    trimStart_plainCaseLine indent identifier " = ".toList
  rw [literalCaseLine_eq]
  exact hbraces ▸ isCode_of_literal hstart
    (hequals (not_mem_plainCaseLine indent h rfl (by decide) (by decide)) (by decide))
    (hequals (not_mem_plainCaseLine indent h rfl (by decide) (by decide)) (by decide)) value.toList

/-! ### Fixed lines -/

theorem isCode_closingLine : IsCode closingLine (-1) := ⟨by decide, by decide, by decide, by decide⟩

theorem typeOpening?_closingLine : typeOpening? closingLine = none := by decide +kernel

theorem property?_closingLine : property? closingLine = none := by decide +kernel

theorem lineCases_closingLine : lineCases closingLine = [] := by decide +kernel

theorem isCode_codingKeysOpening : IsCode codingKeysOpening 1 :=
  ⟨by decide, by decide, by decide, by decide⟩

theorem typeOpening?_codingKeysOpening : typeOpening? codingKeysOpening =
    some ⟨.enum, codingKeys.toList, ["String".toList, "CodingKey".toList]⟩ := by decide +kernel

theorem isCode_codingKeysClosing : IsCode "    \x7d".toList (-1) :=
  ⟨by decide, by decide, by decide, by decide⟩

theorem lineCases_codingKeysClosing : lineCases "    \x7d".toList = [] := by decide +kernel

end ApiModels.Swift
