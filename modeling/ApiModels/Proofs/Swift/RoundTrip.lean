import ApiModels.Proofs.Keyed.Lookup
import ApiModels.Proofs.Swift.Writable

/-!
# Declarations are read back from their source

The source of declarations is written line by line and read line by line. `Recovery.line` is the
step of the reader: for each line that is written there is a lemma that says what it does to where
the reader stands (`line_openingLine`, `line_propertyLine`, …), and one for each run of lines of a
kind. Together they take the reader through a declaration (`foldl_declarationLines`), from a place
between two declarations to the next such place, with the declaration complete.

The main statement is `declarations_source`: from the source of declarations that are
`Declaration.IsWritable` exactly these declarations are recovered.
-/

namespace ApiModels

namespace Swift

open Text (isBlank trim)

/-! ### Doc lines of a declaration -/

/-- The texts of the doc lines of a type. -/
def docTexts (header : String) (source description : Option String) : List (List Char) :=
  (source.map fun name => header.toList ++ ' ' :: name.toList).toList ++
    (description.map String.toList).toList

theorem sourceAfter?_header {source : String} (h : IsSourceName source) (header : String) :
    sourceAfter? header (header.toList ++ ' ' :: source.toList) = some source.toList := by
  have hafter : Text.after? header.toList (header.toList ++ ' ' :: source.toList) =
      some (' ' :: source.toList) := Text.after?_eq_some_iff.2 rfl
  have htrim : trim source.toList = source.toList :=
    Text.trim_eq_self h.noBlankAtStart h.noBlankAtEnd
  have hne : source.toList ≠ [] := fun hnil => h.ne_empty (String.toList_eq_nil_iff.1 hnil)
  have hblank : isBlank ' ' = true := rfl
  simp [sourceAfter?, hafter, htrim, hblank, hne]

theorem sourceAfter?_modelHeader_enum (rest : List Char) :
    sourceAfter? modelHeader (enumHeader.toList ++ rest) = none := by
  have hafter : Text.after? modelHeader.toList (enumHeader.toList ++ rest) = none := rfl
  rw [sourceAfter?, hafter]

theorem sourceAfter?_eq_none {text : String} (htext : ¬ NamesSource isBlank text)
    {header : String} (hheader : header ∈ [modelHeader, enumHeader]) :
    sourceAfter? header text.toList = none := by
  unfold sourceAfter?
  split
  · next c rest heq =>
    rw [Text.after?_eq_some_iff] at heq
    refine if_neg fun hnames => ?_
    rw [Bool.and_eq_true] at hnames
    refine htext ⟨header, hheader, c, rest, hnames.1, ?_, heq⟩
    rintro rfl
    exact Bool.false_ne_true hnames.2
  · rfl

/-- An open type with the docs of a declaration, before its body. -/
def OpenType.ofDocs (opening : TypeOpening) (docs : List (List Char)) : OpenType :=
  ⟨opening, docs, [], [], []⟩

theorem sourceName_docTexts {header : String} (hheader : header ∈ [modelHeader, enumHeader])
    {source description : Option String} (h : AreDocs isBlank source description) {t : OpenType}
    (ht : t.docs = docTexts header source description) :
    t.sourceName = source.map String.toList := by
  unfold OpenType.sourceName
  rw [ht]
  cases source with
  | some name =>
    have hname := h.sourceName name rfl
    simp only [List.mem_cons, List.not_mem_nil, or_false] at hheader
    rcases hheader with rfl | rfl
    · simp [docTexts, sourceAfter?_header hname]
    · simp [docTexts, sourceAfter?_header hname, sourceAfter?_modelHeader_enum]
  | none =>
    cases description with
    | none => rfl
    | some text =>
      have htext := h.notNamesSource rfl text rfl
      have hmodel := sourceAfter?_eq_none htext
        (show modelHeader ∈ [modelHeader, enumHeader] by simp)
      have henum := sourceAfter?_eq_none htext (show enumHeader ∈ [modelHeader, enumHeader] by simp)
      simp [docTexts, hmodel, henum]

theorem description?_toList {description : Option String}
    (h : ∀ text ∈ description, IsDocText text) :
    description? (description.map String.toList).toList = description := by
  cases description with
  | none => rfl
  | some text =>
    have hne := (h text rfl).ne_empty
    simp [description?, Text.join, hne]

theorem description?_descriptionLines {header : String}
    (hheader : header ∈ [modelHeader, enumHeader]) {source description : Option String}
    (h : AreDocs isBlank source description) {t : OpenType}
    (ht : t.docs = docTexts header source description) :
    description? t.descriptionLines = description := by
  have hlines : t.descriptionLines = (description.map String.toList).toList := by
    rw [OpenType.descriptionLines, sourceName_docTexts hheader h ht, ht]
    cases source <;> rfl
  rw [hlines, description?_toList h.docText]

/-! ### Steps of the reader -/

namespace Recovery

/-- Between two declarations, with the doc lines that wait for the next one. -/
def between (complete : List Declaration) (docs : List (List Char)) : Recovery :=
  ⟨complete, 0, docs, none, none⟩

/-- In the body of a type, with the doc lines that wait for the next property. -/
def inBody (complete : List Declaration) (docs : List (List Char)) (t : OpenType) : Recovery :=
  ⟨complete, 1, docs, some t, none⟩

/-- In the names in the data of a type. -/
def inCodingKeys (complete : List Declaration) (t : OpenType) : Recovery :=
  ⟨complete, 2, [], some t, some codingKeys.toList⟩

theorem line_nil (r : Recovery) : r.line [] = r := rfl

theorem line_docLine (r : Recovery) {indent : Nat} {text : String}
    (h : ∀ c ∈ text.toList.getLast?, isBlank c = false) :
    r.line (docLine indent text) = { r with docs := r.docs ++ [text.toList] } := by
  rw [line, docText?_docLine h]

/-- A line of code is declared by its depth and then moves on. -/
theorem line_of_isCode (r : Recovery) {code : List Char} {change : Int} (h : IsCode code change) :
    r.line code = (r.declare code).move code := by
  simp only [line, h.docText?, h.dropComment, h.allBlank, Bool.false_eq_true, if_false]

variable {complete : List Declaration} {docs : List (List Char)} {t : OpenType}

theorem line_openingLine (kind : DeclarationKind) {name : String} (h : IsIdentifier name)
    {conformances : List String} (hconf : IsReadable conformances) :
    (between complete docs).line (openingLine kind.name name conformances) =
      inBody complete [] (.ofDocs ⟨kind, name.toList, conformances.map String.toList⟩ docs) := by
  have hcode := isCode_openingLine kind h hconf
  rw [line_of_isCode _ hcode]
  simp only [between, declare, topLevel, typeOpening?_openingLine kind h hconf, move,
    hcode.depthChange]
  rfl

theorem line_propertyLine (ht : t.opening.kind = .struct) {p : Property}
    (hname : IsIdentifier p.name) (htype : IsTypeText p.type) :
    (inBody complete docs t).line (propertyLine .default p) =
      inBody complete [] { t with properties := t.properties ++
        [declaredProperty docs ⟨p.name.toList, p.type.toList, p.isOptional⟩] } := by
  have hcode := isCode_propertyLine hname htype
  rw [line_of_isCode _ hcode]
  simp only [inBody, declare, typeBody, typeOpening?_propertyLine, Option.map_some, addMember, ht,
    property?_propertyLine hname htype, move, hcode.depthChange]
  rfl

theorem line_literalCaseLine (ht : t.opening.kind = .enum) {c : EnumCase}
    (h : IsIdentifier c.identifier) :
    (inBody complete docs t).line (literalCaseLine 4 .default c.identifier c.value) =
      inBody complete [] { t with cases := t.cases ++ [c] } := by
  have hcode := isCode_literalCaseLine 4 h c.value
  have hopening : typeOpening? (literalCaseLine 4 .default c.identifier c.value) = none := by
    rw [literalCaseLine_eq, List.append_assoc, List.append_assoc]
    exact typeOpening?_caseLine 4 c.identifier _
  have hcase : enumCase ⟨c.identifier.toList, some c.value.toList⟩ = c := by
    simp [enumCase]
  rw [line_of_isCode _ hcode]
  simp only [inBody, declare, typeBody, hopening, Option.map_some, addMember, ht,
    lineCases_literalCaseLine 4 h, List.map_cons, List.map_nil, hcase, move, hcode.depthChange]
  rfl

theorem line_closingLine :
    (inBody complete docs t).line closingLine = between (t.toDeclaration :: complete) [] := by
  have hmember : addMember docs closingLine t = t := by
    unfold addMember
    split
    · rw [property?_closingLine]
    · rw [lineCases_closingLine, List.map_nil, List.append_nil]
  rw [line_of_isCode _ isCode_closingLine]
  simp only [inBody, declare, typeBody, typeOpening?_closingLine, Option.map_some, hmember, move,
    isCode_closingLine.depthChange]
  rfl

theorem line_codingKeysOpening :
    (inBody complete docs t).line codingKeysOpening = inCodingKeys complete t := by
  rw [line_of_isCode _ isCode_codingKeysOpening]
  simp only [inBody, declare, typeBody, typeOpening?_codingKeysOpening, move,
    isCode_codingKeysOpening.depthChange]
  rfl

theorem line_codingKey {code : List Char} {item : CaseItem} (hcode : IsCode code 0)
    (hitem : lineCases code = [item]) :
    (inCodingKeys complete t).line code = inCodingKeys complete { t with
      wireNames := ((enumCase item).identifier, (enumCase item).value) :: t.wireNames } := by
  rw [line_of_isCode _ hcode]
  simp only [inCodingKeys, declare, nestedBody, if_true, Option.map_some, addWireNames, hitem,
    move, hcode.depthChange]
  rfl

theorem line_codingKeyLine {p : Property} (h : IsIdentifier p.name) :
    (inCodingKeys complete t).line (codingKeyLine .default p) =
      inCodingKeys complete { t with wireNames := (p.name, p.wireName) :: t.wireNames } := by
  unfold codingKeyLine
  split
  · next heq =>
    rw [line_codingKey (isCode_plainCaseLine 8 h) (lineCases_plainCaseLine 8 h), ← heq]
    simp [enumCase]
  · rw [line_codingKey (isCode_literalCaseLine 8 h p.wireName)
      (lineCases_literalCaseLine 8 h p.wireName)]
    simp [enumCase]

theorem line_codingKeysClosing :
    (inCodingKeys complete t).line "    \x7d".toList = inBody complete [] t := by
  have hnames : addWireNames "    \x7d".toList t = t := by
    rw [addWireNames, lineCases_codingKeysClosing]
    rfl
  rw [line_of_isCode _ isCode_codingKeysClosing]
  simp only [inCodingKeys, declare, nestedBody, if_true, Option.map_some, hnames, move,
    isCode_codingKeysClosing.depthChange]
  rfl

/-! ### Runs over the lines of a declaration -/

theorem foldl_docLines {header : String} {source description : Option String}
    (h : AreDocs isBlank source description) :
    (docLines header source description).foldl line (between complete []) =
      between complete (docTexts header source description) := by
  have hsource : ∀ r : Recovery, ∀ name ∈ source, r.line (sourceLine header name) =
      { r with docs := r.docs ++ [header.toList ++ ' ' :: name.toList] } := by
    intro r name hname
    have hne : name.toList ≠ [] :=
      fun hnil => (h.sourceName name hname).ne_empty (String.toList_eq_nil_iff.1 hnil)
    have htext : (header ++ " " ++ name).toList = header.toList ++ ' ' :: name.toList := by simp
    have hlast : (header ++ " " ++ name).toList.getLast? = name.toList.getLast? := by
      rw [htext, List.append_cons, List.getLast?_append, List.getLast?_eq_some_getLast hne,
        Option.some_or]
    rw [sourceLine, line_docLine r (hlast ▸ (h.sourceName name hname).noBlankAtEnd), htext]
  have hdescription : ∀ r : Recovery, ∀ text ∈ description, r.line (docLine 0 text) =
      { r with docs := r.docs ++ [text.toList] } :=
    fun r text htext => line_docLine r (h.docText text htext).noBlankAtEnd
  cases source with
  | none =>
    cases description with
    | none => rfl
    | some text => exact hdescription _ text rfl
  | some name =>
    have hfirst := hsource (between complete []) name rfl
    cases description with
    | none => exact hfirst
    | some text =>
      unfold docLines
      rw [List.foldl_append, Option.map_some, Option.toList_some, List.foldl_cons, List.foldl_nil,
        hfirst]
      exact hdescription _ text rfl

theorem foldl_caseLines (ht : t.opening.kind = .enum) {cases : List EnumCase}
    (h : ∀ c ∈ cases, IsIdentifier c.identifier) :
    (cases.map fun c => literalCaseLine 4 .default c.identifier c.value).foldl line
      (inBody complete [] t) = inBody complete [] { t with cases := t.cases ++ cases } := by
  induction cases generalizing t with
  | nil => simp
  | cons c cases ih =>
    have hrest := ih (t := { t with cases := t.cases ++ [c] }) ht
      fun d hd => h d (List.mem_cons_of_mem c hd)
    rw [List.map_cons, List.foldl_cons, line_literalCaseLine ht (h c List.mem_cons_self), hrest]
    simp

/-- A property before its name in the data is known. -/
def unnamed (p : Property) : Property := { p with wireName := p.name }

theorem foldl_propertyLines (ht : t.opening.kind = .struct) {p : Property} (h : p.IsWritable) :
    (propertyLines .default p).foldl line (inBody complete [] t) =
      inBody complete [] { t with properties := t.properties ++ [unnamed p] } := by
  have hproperty : ∀ docs, declaredProperty docs ⟨p.name.toList, p.type.toList, p.isOptional⟩ =
      ⟨p.name, p.name, p.type, p.isOptional, description? docs⟩ := by
    intro docs
    simp [declaredProperty]
  have hdescription := description?_toList h.description
  unfold propertyLines unnamed
  rw [List.foldl_append, List.foldl_cons, List.foldl_cons, List.foldl_nil, line_nil]
  cases hp : p.description with
  | none =>
    rw [hp] at hdescription
    rw [Option.map_none, Option.toList_none, List.foldl_nil, line_propertyLine ht h.name h.type,
      hproperty, ← hdescription]
    rfl
  | some text =>
    rw [hp] at hdescription
    have hdoc : (inBody complete [] t).line (docLine 4 text) = inBody complete [text.toList] t :=
      line_docLine _ (h.description text hp).noBlankAtEnd
    rw [Option.map_some, Option.toList_some, List.foldl_cons, List.foldl_nil, hdoc,
      line_propertyLine ht h.name h.type, hproperty, ← hdescription]
    rfl

theorem foldl_flatMap_propertyLines (ht : t.opening.kind = .struct) {properties : List Property}
    (h : ∀ p ∈ properties, p.IsWritable) :
    (properties.flatMap (propertyLines .default)).foldl line (inBody complete [] t) =
      inBody complete [] { t with properties := t.properties ++ properties.map unnamed } := by
  induction properties generalizing t with
  | nil => simp
  | cons p properties ih =>
    have hrest := ih (t := { t with properties := t.properties ++ [unnamed p] }) ht
      fun q hq => h q (List.mem_cons_of_mem p hq)
    rw [List.flatMap_cons, List.foldl_append, foldl_propertyLines ht (h p List.mem_cons_self),
      hrest]
    simp

theorem foldl_codingKeyLines {properties : List Property}
    (h : ∀ p ∈ properties, IsIdentifier p.name) :
    (properties.map (codingKeyLine .default)).foldl line (inCodingKeys complete t) =
      inCodingKeys complete { t with
        wireNames := (properties.map fun p => (p.name, p.wireName)).reverse ++ t.wireNames } := by
  induction properties generalizing t with
  | nil => simp
  | cons p properties ih =>
    have hrest := ih (t := { t with wireNames := (p.name, p.wireName) :: t.wireNames })
      fun q hq => h q (List.mem_cons_of_mem p hq)
    rw [List.map_cons, List.foldl_cons, line_codingKeyLine (h p List.mem_cons_self), hrest]
    simp

theorem foldl_codingKeysLines {properties : List Property}
    (h : ∀ p ∈ properties, IsIdentifier p.name) :
    (codingKeysLines .default properties).foldl line (inBody complete [] t) =
      inBody complete [] { t with
        wireNames := (properties.map fun p => (p.name, p.wireName)).reverse ++ t.wireNames } := by
  have hopening : [codingKeysOpening].foldl line (inBody complete [] t) =
      inCodingKeys complete t := line_codingKeysOpening
  rw [codingKeysLines, List.foldl_append, List.foldl_append, hopening, foldl_codingKeyLines h,
    List.foldl_cons, line_codingKeysClosing, List.foldl_cons, line_nil, List.foldl_nil]

end Recovery

open Recovery

/-! ### Declarations -/

theorem toDeclaration_eq_enum {e : EnumType} (h : e.IsWritable isBlank) {t : OpenType}
    (hkind : t.opening.kind = .enum) (hname : t.opening.name = e.name.toList)
    (hdocs : t.docs = docTexts enumHeader e.sourceName e.description) (hcases : t.cases = e.cases) :
    t.toDeclaration = .enum e := by
  have hheader : enumHeader ∈ [modelHeader, enumHeader] := by simp
  have hsource := sourceName_docTexts hheader h.docs hdocs
  have hdescription := description?_descriptionLines hheader h.docs hdocs
  simp [OpenType.toDeclaration, hkind, hname, hsource, hdescription, hcases]

theorem map_withWireName {properties : List Property} (h : (properties.map (·.name)).Nodup)
    {t : OpenType} (ht : t.wireNames = if properties.any fun p => p.name != p.wireName then
      (properties.map fun p => (p.name, p.wireName)).reverse else []) :
    (properties.map unnamed).map t.withWireName = properties := by
  have hproperty : ∀ p ∈ properties, t.withWireName (unnamed p) = p := by
    intro p hp
    by_cases hneeds : (properties.any fun p => p.name != p.wireName) = true
    · rw [if_pos hneeds] at ht
      have hkeys : ((properties.map fun p => (p.name, p.wireName)).reverse.map (·.1)).Nodup := by
        rw [List.map_reverse, List.map_map]
        exact List.pairwise_reverse.2 (h.imp Ne.symm)
      have hmem : (p.name, p.wireName) ∈
          (properties.map fun p => (p.name, p.wireName)).reverse :=
        List.mem_reverse.2 (List.mem_map_of_mem (f := fun p : Property => (p.name, p.wireName)) hp)
      have hlookup := (lookup_eq_some_iff_mem hkeys).2 hmem
      simp only [OpenType.withWireName, ht, unnamed, hlookup]
    · rw [if_neg hneeds] at ht
      have heq : p.name = p.wireName := by
        simp only [List.any_eq_true, not_exists, not_and, bne_iff_ne, ne_eq,
          Decidable.not_not] at hneeds
        exact hneeds p hp
      have hself : unnamed p = p := by
        obtain ⟨name, wireName, type, isOptional, description⟩ := p
        cases heq
        rfl
      simp only [OpenType.withWireName, ht, List.lookup_nil, hself]
  rw [List.map_map]
  exact (List.map_congr_left hproperty).trans (List.map_id' properties)

theorem toDeclaration_eq_record {r : RecordType} (h : r.IsWritable isBlank) {t : OpenType}
    (hopening : t.opening =
      ⟨.struct, r.name.toList, (recordConformances .default r).map String.toList⟩)
    (hdocs : t.docs = docTexts modelHeader r.sourceName r.description)
    (hproperties : t.properties = r.properties.map unnamed)
    (hwireNames : t.wireNames = if r.needsWireNames then
      (r.properties.map fun p => (p.name, p.wireName)).reverse else []) :
    t.toDeclaration = .record r := by
  have hheader : modelHeader ∈ [modelHeader, enumHeader] := by simp
  have hsource := sourceName_docTexts hheader h.docs hdocs
  have hdescription := description?_descriptionLines hheader h.docs hdocs
  have hwire : t.properties.map t.withWireName = r.properties := by
    rw [hproperties]
    exact map_withWireName h.distinct hwireNames
  have hequatable : t.isEquatable = r.isEquatable := by
    unfold OpenType.isEquatable
    rw [hopening]
    unfold recordConformances
    cases r.isEquatable <;> rfl
  simp [OpenType.toDeclaration, hopening, hsource, hdescription, hwire, hequatable]

theorem foldl_enumLines {e : EnumType} (h : e.IsWritable isBlank) (complete : List Declaration) :
    (enumLines .default e).foldl line (between complete []) =
      between (.enum e :: complete) [] := by
  have hkind : "enum" = DeclarationKind.enum.name := rfl
  unfold enumLines
  rw [List.foldl_append, List.foldl_append, List.foldl_append, foldl_docLines h.docs,
    List.foldl_cons, List.foldl_nil, List.foldl_cons, List.foldl_nil, hkind,
    line_openingLine .enum h.name isReadable_enumConformances, foldl_caseLines rfl h.cases,
    line_closingLine, toDeclaration_eq_enum h rfl rfl rfl rfl]

theorem foldl_recordLines {r : RecordType} (h : r.IsWritable isBlank)
    (complete : List Declaration) :
    (recordLines .default r).foldl line (between complete []) =
      between (.record r :: complete) [] := by
  have hkind : "struct" = DeclarationKind.struct.name := rfl
  have hnames : ∀ p ∈ r.properties, IsIdentifier p.name := fun p hp => (h.properties p hp).name
  have hbody : ∀ t : OpenType, (if r.needsWireNames then codingKeysLines .default r.properties
      else []).foldl line (inBody complete [] t) = inBody complete [] { t with
        wireNames := (if r.needsWireNames then
          (r.properties.map fun p => (p.name, p.wireName)).reverse else []) ++ t.wireNames } := by
    intro t
    split
    · exact foldl_codingKeysLines hnames
    · rfl
  unfold recordLines
  rw [List.foldl_append, List.foldl_append, List.foldl_append, List.foldl_append,
    foldl_docLines h.docs, List.foldl_cons, List.foldl_nil, List.foldl_cons, List.foldl_nil, hkind,
    line_openingLine .struct h.name (isReadable_recordConformances r),
    foldl_flatMap_propertyLines rfl h.properties, hbody, line_closingLine,
    toDeclaration_eq_record h rfl rfl (List.nil_append _) (List.append_nil _)]

/-- The lines of a declaration take the reader from one place between declarations to the next. -/
theorem foldl_declarationLines {d : Declaration} (h : d.IsWritable isBlank)
    (complete : List Declaration) :
    (declarationLines .default d).foldl line (between complete []) =
      between (d :: complete) [] := by
  cases d with
  | record r => exact foldl_recordLines h complete
  | enum e => exact foldl_enumLines h complete

theorem foldl_flatMap_declarationLines {ds : List Declaration}
    (h : ∀ d ∈ ds, d.IsWritable isBlank) (complete : List Declaration) :
    (ds.flatMap fun d => declarationLines .default d ++ [[]]).foldl line (between complete []) =
      between (ds.reverse ++ complete) [] := by
  induction ds generalizing complete with
  | nil => rfl
  | cons d ds ih =>
    have hd := foldl_declarationLines (h d List.mem_cons_self) complete
    rw [List.flatMap_cons, List.foldl_append, List.foldl_append, hd, List.foldl_cons, line_nil,
      List.foldl_nil, ih (fun e he => h e (List.mem_cons_of_mem d he))]
    simp

theorem foldl_headerLines : headerLines.foldl line .start = between [] [] := by decide +kernel

theorem declarations_source_eq_foldl {isSeparator : Char → Bool} {ds : List Declaration}
    (h : ∀ d ∈ ds, d.IsWritable isSeparator) : declarations (source .default ds) =
      ((sourceLines .default ds).foldl line .start).finish := by
  have hlines : Text.lines (source .default ds).toList = sourceLines .default ds := by
    rw [source, String.toList_ofList]
    exact Text.lines_flatMap_append_singleton (isLine_sourceLines h)
  rw [declarations, hlines]

theorem finish_foldl_sourceLines {ds : List Declaration} (h : ∀ d ∈ ds, d.IsWritable isBlank) :
    ((sourceLines .default ds).foldl line .start).finish = ds := by
  rw [sourceLines, List.foldl_append, foldl_headerLines, foldl_flatMap_declarationLines h]
  simp [between, finish, completeType]

/-- **Declarations are read back from their source.** The texts of enum cases and the names in the
data may hold anything. -/
theorem declarations_source {ds : List Declaration} (h : ∀ d ∈ ds, d.IsWritable isBlank) :
    declarations (source .default ds) = ds :=
  (declarations_source_eq_foldl h).trans (finish_foldl_sourceLines h)

/-- A record and an enumeration with reserved words for names, and with quotes, braces, slashes and
line breaks in the texts that may hold anything. -/
theorem declarations_source_reserved :
    let ds : List Declaration :=
      [.record ⟨"class", some "GET /pets \x7b\x7d", some "Generated model for X",
          [⟨"default", "// \"\x7b\n", "[String:Pet]", true, some "a \x7b // b"⟩,
            ⟨"id", "id", "Int", false, none⟩], true⟩,
        .enum ⟨"_", none, some "Generated model forX",
          [⟨"case", "\\\"\x7d//\r\n"⟩, ⟨"empty", ""⟩]⟩]
    (∀ d ∈ ds, d.IsWritable isBlank) ∧ declarations (source .default ds) = ds :=
  ⟨by decide, declarations_source (by decide)⟩

/-- A tab after the header names a source as well as a space does, so that a description of this
form is not read back. -/
theorem declarations_source_tab :
    let d : Declaration := .record ⟨"Pet", none, some "Generated model for\tX", [], false⟩
    d.IsWritable (· == ' ') ∧ declarations (source .default [d]) ≠ [d] := by
  intro d
  have hwritable : d.IsWritable (· == ' ') := by decide
  refine ⟨hwritable, ?_⟩
  rw [declarations_source_eq_foldl fun e he => List.mem_singleton.1 he ▸ hwritable, sourceLines,
    List.foldl_append, foldl_headerLines]
  decide +kernel

end Swift

end ApiModels
