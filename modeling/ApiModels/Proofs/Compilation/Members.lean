import ApiModels.Proofs.Compilation.Comparability
import ApiModels.Proofs.Compilation.Wire
import ApiModels.Proofs.Shape.Literals

/-!
# Members of declarations

Properties and cases have identifiers, whatever they are called in a document. An identifier can be
the wildcard, a single underscore, only if all that the name says is one symbol
(`isLoneSymbol_of_memberName`, `isSymbolLiteral_of_caseName`): each character of a segment leaves
at least one character in the identifier, and a number behind it makes it longer still.

The values of the cases of an enumeration are the texts of the literals of an object in the
document, so they are distinct exactly if these texts are. `compile_hasLegalMembers` says this of
everything that is compiled by default, and `compile_not_hasLegalMembers` is a document with a
wildcard and with a value that occurs twice.
-/

namespace ApiModels

open Naming Swift

/-- No letter or digit of ASCII is left of the character in small letters. -/
def Naming.IsSymbol (c : Char) : Prop := ∀ d ∈ Text.lower c, d.isAlphanum = false

/-- Between its separators a name has one character only, which is a symbol. -/
def Naming.IsLoneSymbol (name : String) : Prop :=
  ∃ c, segments name.toList = [[c]] ∧ IsSymbol c

/-- A literal is one symbol, which may be a separator. -/
def Naming.IsSymbolLiteral (literal : String) : Prop :=
  ∃ c, literal.toList = [c] ∧ IsSymbol c

/-- The values of the cases are literals of the document. -/
structure EnumType.HasLiterals (e : EnumType) (definition : Json) (items : List Json) : Prop where
  /-- The literals stand in the schema. -/
  listed : definition.ListsLiterals items
  values : e.cases.map (·.value) = Shape.literals items
  /-- The values are distinct exactly if no two literals have the same text. -/
  distinct : (e.cases.map (·.value)).Nodup ↔
    items.Pairwise fun a b => ∀ text, a.literal? = some text → b.literal? ≠ some text

/-- A declaration comes from the schema or from one of its properties. -/
def Declaration.IsFrom (declaration : Declaration) (schema : String) : Prop :=
  declaration.sourceName = some schema ∨
    ∃ property, declaration.sourceName = some (schema ++ "." ++ property)

/-- The members of a declaration of a document are legal. -/
def Declaration.HasLegalMembers (d : Document) : Declaration → Prop
  | .enum e =>
    (∀ c ∈ e.cases, IsIdentifier c.identifier ∧
      (c.identifier = "_" → IsSymbolLiteral c.value)) ∧
    ∃ schema definition items, (schema, definition) ∈ d.schemas ∧
      (Declaration.enum e).IsFrom schema ∧ e.HasLiterals definition items
  | .record r =>
    ∀ p ∈ r.properties, IsIdentifier p.name ∧ (p.name = "_" → IsLoneSymbol p.wireName)

/-! ### Small and capital letters -/

namespace Text

theorem mapCase_ne_nil {runs : List (Nat × Nat × Nat × Int)} {special : List (Nat × List Nat)}
    (h : ∀ entry ∈ special, entry.2 ≠ []) (c : Char) : mapCase runs special c ≠ [] := by
  unfold mapCase
  split
  · next image hlookup =>
    obtain ⟨before, after, heq, -⟩ := List.lookup_eq_some_iff.1 hlookup
    have hmem : (c.toNat, image) ∈ special := by simp [heq]
    exact fun hnil => h _ hmem (List.map_eq_nil_iff.1 hnil)
  · exact List.cons_ne_nil _ _

theorem lower_ne_nil (c : Char) : lower c ≠ [] := by
  unfold lower
  split
  · exact List.cons_ne_nil _ _
  · exact mapCase_ne_nil (by decide) c

theorem upper_ne_nil (c : Char) : upper c ≠ [] := by
  unfold upper
  split
  · exact List.cons_ne_nil _ _
  · exact mapCase_ne_nil (by decide +kernel) c

theorem length_le_length_lowercase (cs : List Char) : cs.length ≤ (lowercase cs).length := by
  induction cs with
  | nil => exact Nat.le_refl 0
  | cons c cs ih =>
    have hfirst := List.length_pos_of_ne_nil (lower_ne_nil c)
    rw [lowercase, List.flatMap_cons, List.length_append, List.length_cons, Nat.add_comm]
    exact Nat.add_le_add hfirst ih

theorem length_le_length_lowerFirst (cs : List Char) : cs.length ≤ (lowerFirst cs).length := by
  cases cs with
  | nil => exact Nat.le_refl 0
  | cons c cs =>
    have hfirst := List.length_pos_of_ne_nil (lower_ne_nil c)
    rw [lowerFirst, List.length_append, List.length_cons, Nat.add_comm]
    exact Nat.add_le_add_right hfirst cs.length

theorem upperFirst_ne_nil {cs : List Char} (h : cs ≠ []) : upperFirst cs ≠ [] := by
  cases cs with
  | nil => exact absurd rfl h
  | cons c cs => exact fun hnil => upper_ne_nil c (List.append_eq_nil_iff.1 hnil).1

theorem lowercase_singleton (c : Char) : lowercase [c] = lower c := List.flatMap_singleton lower c

end Text

/-! ### When the wildcard is left -/

namespace Naming

theorem ne_nil_of_mem_segments {name segment : List Char} (h : segment ∈ segments name) :
    segment ≠ [] := by
  have hsegment := (List.mem_filter.1 h).2
  rintro rfl
  cases hsegment

theorem length_le_length_firstSegment (segment : List Char) :
    segment.length ≤ (firstSegment segment).length := by
  unfold firstSegment
  split
  · exact Text.length_le_length_lowercase segment
  · exact Text.length_le_length_lowerFirst segment

theorem firstSegment_singleton (c : Char) : firstSegment [c] = Text.lower c := by
  unfold firstSegment
  split
  · exact Text.lowercase_singleton c
  · exact List.append_nil _

/-- **A single character is left only of a single character.** -/
theorem exists_of_camelCase_eq_singleton {name : List Char} {x : Char}
    (h : camelCase name = [x]) : ∃ c, segments name = [[c]] ∧ Text.lower c = [x] := by
  unfold camelCase at h
  cases hsegments : segments name with
  | nil =>
    rw [hsegments] at h
    cases h
  | cons segment more =>
    have hne : ∀ other ∈ segment :: more, other ≠ [] := fun other hmem =>
      ne_nil_of_mem_segments (hsegments ▸ hmem)
    simp only [hsegments] at h
    obtain ⟨c, cs, rfl⟩ := List.exists_cons_of_ne_nil (hne segment List.mem_cons_self)
    have hfirst := length_le_length_firstSegment (c :: cs)
    have hlength := congrArg List.length h
    rw [List.length_append, List.length_singleton] at hlength
    rw [List.length_cons] at hfirst
    -- The first segment gives the one character, so nothing comes after it.
    have hcs : cs = [] := List.length_eq_zero_iff.1 (by omega)
    have hmore : more.flatMap Text.upperFirst = [] := List.length_eq_zero_iff.1 (by omega)
    subst hcs
    cases more with
    | nil =>
      rw [List.flatMap_nil, List.append_nil, firstSegment_singleton] at h
      exact ⟨c, rfl, h⟩
    | cons other more =>
      have hother := hne other (List.mem_cons_of_mem _ List.mem_cons_self)
      exact absurd (List.append_eq_nil_iff.1 hmore).1 (Text.upperFirst_ne_nil hother)

/-- An underscore is left of a character that is no letter or digit. -/
theorem exists_of_transliterated_eq_wildcard {cs : List Char} (h : transliterated cs = ['_']) :
    ∃ x, cs = [x] ∧ x.isAlphanum = false := by
  obtain ⟨x, rfl, hx⟩ := List.map_eq_singleton_iff.1 h
  refine ⟨x, rfl, ?_⟩
  split at hx
  · rw [hx]
    rfl
  · next hchar =>
    rw [isIdentifierChar, Bool.or_eq_true, not_or] at hchar
    exact Bool.eq_false_iff.2 hchar.1

theorem eq_of_guardDigit_eq_singleton {start cs : List Char} {x : Char} (hstart : start ≠ [])
    (h : guardDigit start cs = [x]) : cs = [x] := by
  cases cs with
  | nil => cases h
  | cons c cs =>
    rw [guardDigit] at h
    split at h
    · have hlength := congrArg List.length h
      have hpos := List.length_pos_of_ne_nil hstart
      rw [List.length_append, List.length_cons, List.length_singleton] at hlength
      omega
    · exact h

theorem isSymbol_of_lower_eq {c x : Char} (h : Text.lower c = [x]) (hx : x.isAlphanum = false) :
    IsSymbol c := by
  intro d hd
  rw [h, List.mem_singleton] at hd
  rw [hd]
  exact hx

end Naming

/-- **A property is called by the wildcard only if its name is one symbol.** -/
theorem isLoneSymbol_of_memberName {name : String} (h : memberName name = "_") :
    IsLoneSymbol name := by
  unfold memberName at h
  simp only at h
  split at h
  · exact absurd h (by decide)
  · have hguard : guardDigit ['_'] (transliterated (camelCase name.toList)) = ['_'] := by
      rw [← String.toList_ofList (l := guardDigit _ _), h]
      rfl
    have hjoined := eq_of_guardDigit_eq_singleton (List.cons_ne_nil _ _) hguard
    obtain ⟨x, hcamel, hx⟩ := exists_of_transliterated_eq_wildcard hjoined
    obtain ⟨c, hsegments, hlower⟩ := exists_of_camelCase_eq_singleton hcamel
    exact ⟨c, hsegments, isSymbol_of_lower_eq hlower hx⟩

/-- **By default a case is called by the wildcard only if its literal is one symbol.** -/
theorem isSymbolLiteral_of_caseName {literal : String}
    (h : RenderProfile.default.caseName literal = "_") : IsSymbolLiteral literal := by
  unfold RenderProfile.caseName at h
  simp only at h
  split at h
  · exact absurd h (by decide)
  · next hne =>
    have hguard : guardDigit RenderProfile.default.digitCaseStart.toList
        (transliterated (Text.lowercase literal.toList)) = ['_'] := by
      rw [← String.toList_ofList (l := guardDigit _ _), h]
      rfl
    have htext := eq_of_guardDigit_eq_singleton (by decide) hguard
    obtain ⟨x, hlowercase, hx⟩ := exists_of_transliterated_eq_wildcard htext
    have hlength := Text.length_le_length_lowercase literal.toList
    rw [hlowercase, List.length_singleton] at hlength
    cases hliteral : literal.toList with
    | nil =>
      rw [hliteral] at hne
      exact absurd rfl hne
    | cons c cs =>
      rw [hliteral, List.length_cons] at hlength
      have hcs : cs = [] := List.length_eq_zero_iff.1 (by omega)
      subst hcs
      rw [hliteral, Text.lowercase_singleton] at hlowercase
      exact ⟨c, hliteral, isSymbol_of_lower_eq hlowercase hx⟩

/-- With a number behind it nothing is the wildcard. -/
theorem IsVariantOf.eq_wildcard {base : String} (h : IsVariantOf base "_") : base = "_" := by
  rcases h with heq | ⟨n, -, heq⟩
  · exact heq.symm
  · have hlength := congrArg (fun name : String => name.toList.length) heq
    have hdigits := List.length_pos_of_ne_nil (@Nat.toDigits_ne_nil n 10)
    simp only [numbered, String.toList_append, List.length_append,
      Nat.toString_eq_ofList_toDigits, String.toList_ofList] at hlength
    have hone : "_".toList.length = 1 := rfl
    omega

/-! ### Members of what is compiled -/

theorem Shape.HoldsInline.holds {shape : Shape} {values : List String}
    (h : shape.HoldsInline values) : shape.Holds values := by
  induction h with
  | enumeration => exact .enumeration
  | array _ ih => exact .array ih

theorem EnumType.exists_hasLiterals {e : EnumType} {definition : Json}
    (h : (Shape.detect definition).Holds (e.cases.map (·.value))) :
    ∃ items, e.HasLiterals definition items := by
  obtain ⟨items, hlisted, hvalues⟩ := Shape.exists_literals_of_holds_detect h
  exact ⟨items, hlisted, hvalues, by rw [hvalues]; exact Shape.nodup_literals_iff⟩

namespace CompileContext

variable {d : Document} {settings : Settings}

theorem CompiledFrom.exists_hasLiterals {schema : String} {e : EnumType}
    (h : (ofDocument d settings).CompiledFrom schema (.enum e)) :
    ∃ definition items, (schema, definition) ∈ d.schemas ∧
      (Declaration.enum e).IsFrom schema ∧ e.HasLiterals definition items := by
  have hsource := h.sourceName
  cases h with
  | @enum shape values hshape hrole =>
    obtain ⟨definition, hmem, hdetect⟩ := (mem_shapes_ofDocument d settings).1 hshape
    have hholds : (Shape.detect definition).Holds
        (((ofDocument d settings).enumCases values).map (·.value)) := by
      rw [map_value_enumCases, hdetect, Shape.eq_enumeration_of_role hrole]
      exact .enumeration
    obtain ⟨items, hliterals⟩ := @EnumType.exists_hasLiterals ⟨_, _, _, _⟩ definition hholds
    exact ⟨definition, items, hmem, .inl hsource, hliterals⟩

theorem IsInlineOf.exists_hasLiterals {p : LoweredRecord × LoweredField} {e : EnumType}
    (h : (ofDocument d settings).IsInlineOf p e) :
    ∃ definition items, (p.1.owner.schema, definition) ∈ d.schemas ∧
      (Declaration.enum e).IsFrom p.1.owner.schema ∧ e.HasLiterals definition items := by
  obtain ⟨definition, hmem, hdetect⟩ := (mem_shapes_ofDocument d settings).1 h.shape
  have hsource : p.2.source ∈ p.1.sources :=
    List.mem_map_of_mem ((ofDocument d settings).mem_fields.1 h.property).2
  have hholds : (Shape.detect definition).Holds (e.cases.map (·.value)) := by
    rw [hdetect, Shape.eq_object_of_role h.role]
    exact .property hsource h.literals.holds
  obtain ⟨items, hliterals⟩ := EnumType.exists_hasLiterals hholds
  exact ⟨definition, items, hmem, .inr ⟨_, h.source⟩, hliterals⟩

theorem hasLegalMembers_of_mem_declarations {declaration : Declaration}
    (h : declaration ∈ (ofDocument d .default).declarations) : declaration.HasLegalMembers d := by
  have hnamed := isNamedFor_of_mem_declarations d .default h
  cases declaration with
  | record r =>
    intro p hp
    have hvariant := hnamed p hp
    refine ⟨hvariant.isIdentifier (isIdentifier_memberName p.wireName), fun hwildcard => ?_⟩
    rw [hwildcard] at hvariant
    exact isLoneSymbol_of_memberName hvariant.eq_wildcard
  | enum e =>
    constructor
    · intro c hc
      have hvariant := hnamed c hc
      refine ⟨hvariant.isIdentifier (isIdentifier_caseName c.value), fun hwildcard => ?_⟩
      rw [hwildcard] at hvariant
      exact isSymbolLiteral_of_caseName hvariant.eq_wildcard
    · rcases compiledFrom_or_isInlineOf d .default h with ⟨schema, hfrom⟩ | ⟨p, other, hinline, heq⟩
      · exact ⟨schema, hfrom.exists_hasLiterals⟩
      · cases heq
        exact ⟨_, hinline.exists_hasLiterals⟩

end CompileContext

/-- **What is compiled by default has legal members**: identifiers that are no wildcards but for
lone symbols, and values that repeat only where literals of the document do. -/
theorem compile_hasLegalMembers {d : Document} {models : CompiledModels}
    (h : compile d .default = .ok models) :
    ∀ declaration ∈ models.declarations, declaration.HasLegalMembers d := by
  obtain ⟨-, rfl⟩ := compile_eq_ok_iff.1 h
  exact fun declaration => CompileContext.hasLegalMembers_of_mem_declarations

/-- A record with a name that is none in a program, and an enumeration of a string, a number and
`null`. -/
def gaugeDocument : Document where
  members := [
    ("components", .object [("schemas", .object [
      ("Gauge", .object [("properties", .object [
        ("2nd-über.level", .object [("$ref", .text "#/components/schemas/Level")])])]),
      ("Level", .object [
        ("enum", .list [.text "HIGH", .number (.int 1), .null]), ("type", .text "string")])])])]
  sorted := by decide +kernel
  sections := by decide +kernel

/-- The literals of the gauge are told apart, without `null`. -/
theorem compile_hasLegalMembers_gauge :
    let ctx := CompileContext.ofDocument gaugeDocument .default
    compile gaugeDocument .default = .ok ⟨ctx.declarations, .default⟩ ∧
      (∀ declaration ∈ ctx.declarations, declaration.HasLegalMembers gaugeDocument) ∧
      memberName "2nd-über.level" = "_2nd_berLevel" ∧
      ctx.schemaEnums.map (·.cases) = [[⟨"high", "HIGH"⟩, ⟨"case_1", "1"⟩]] := by
  intro ctx
  have hcompile : compile gaugeDocument .default = .ok ⟨ctx.declarations, .default⟩ :=
    compile_eq_ok_iff.2 ⟨by decide +kernel, rfl⟩
  exact ⟨hcompile, compile_hasLegalMembers hcompile, by decide +kernel, by decide +kernel⟩

/-! ### A wildcard and a repeated value -/

namespace CompileContext

variable {ctx : CompileContext}

/-- Where no record loses its mark of comparability, records are declared as they are written. -/
theorem declarations_of_stable {enums inline : List EnumType} {records : List RecordType}
    (henums : ctx.schemaEnums = enums) (hinline : ctx.recordsAndInline.2.enums = inline)
    (hrecords : ctx.recordsAndInline.1 = records) (hstable : propagationPass records = records) :
    ctx.declarations = enums.map .enum ++ inline.map .enum ++ records.map .record := by
  unfold declarations
  simp only [henums, hinline, hrecords, propagateEquatable_of_stable hstable]

end CompileContext

/-- An enumeration of a string and the number that it spells, and a record with a symbol for a
name. -/
def signDocument : Document where
  members := [
    ("components", .object [("schemas", .object [
      ("Choice", .object [
        ("enum", .list [.text "1", .number (.int 1)]), ("type", .text "string")]),
      ("Sign", .object [("properties", .object [
        ("+", .object [("type", .text "string")])])])])])]
  sorted := by decide +kernel
  sections := by decide +kernel

/-- The enumeration of that document. -/
def signChoice : EnumType :=
  ⟨"GeneratedChoice", some "Choice", none, [⟨"case_1", "1"⟩, ⟨"case_1_2", "1"⟩]⟩

/-- Its record. -/
def signRecord : RecordType :=
  ⟨"GeneratedSign", some "Sign", none, [⟨"_", "+", "String", true, none⟩], true⟩

theorem recordsAndInline_signDocument :
    let ctx := CompileContext.ofDocument signDocument .default
    ctx.recordsAndInline.1 = [signRecord] ∧ ctx.recordsAndInline.2.enums = [] := by
  intro ctx
  have howners : ctx.owners = [⟨"Choice", "GeneratedChoice", .enumeration ["1", "1"]⟩,
      ⟨"Sign", "GeneratedSign", .object [⟨"+", false, none, .primitive .string none⟩]⟩] := by
    decide +kernel
  have hwalk : ctx.walk [] (.primitive .string none) = .at .text := by
    rw [CompileContext.walk]
    rfl
  rw [CompileContext.recordsAndInline, howners]
  simp only [CompileContext.compileRecords, Shape.role, CompileContext.compileRecord,
    CompileContext.fieldTypes, hwalk, CompileContext.settle, Walk.at]
  decide +kernel

/-- **A value can occur twice, and a property can be called by the wildcard.** -/
theorem compile_not_hasLegalMembers :
    ∃ models, compile signDocument .default = .ok models ∧
      (∃ e, .enum e ∈ models.declarations ∧ ¬ (e.cases.map (·.value)).Nodup) ∧
      ∃ r, .record r ∈ models.declarations ∧ ∃ p ∈ r.properties, p.name = "_" := by
  let ctx := CompileContext.ofDocument signDocument .default
  have henums : ctx.schemaEnums = [signChoice] := by decide +kernel
  obtain ⟨hrecords, hinline⟩ := recordsAndInline_signDocument
  have hstable : propagationPass [signRecord] = [signRecord] := by decide +kernel
  have hdeclarations : ctx.declarations = [.enum signChoice, .record signRecord] :=
    CompileContext.declarations_of_stable henums hinline hrecords hstable
  refine ⟨⟨ctx.declarations, .default⟩, compile_eq_ok_iff.2 ⟨by decide +kernel, rfl⟩, ?_⟩
  simp only [hdeclarations]
  exact ⟨⟨signChoice, List.mem_cons_self, by decide⟩,
    ⟨signRecord, List.mem_cons_of_mem _ List.mem_cons_self, _, List.mem_cons_self, rfl⟩⟩

end ApiModels
