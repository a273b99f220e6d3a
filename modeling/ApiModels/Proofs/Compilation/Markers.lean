import ApiModels.Proofs.Compilation.Identifiers
import ApiModels.Proofs.Compilation.Lowering

/-!
# Names under any marker

Any identifier can be set as the marker, and also nothing at all. Whatever is stripped or replaced
in the name of a schema, its type name is an identifier that starts with the marker
(`isMarked_typeName`).

The name of an enumeration in line is put together from the type name of its record, but of this
only the letters and digits are taken. So it loses the underscores of a marker, and also the one
that stands before a digit where there is no marker (`isMarked_inlineName_iff`). All names of a
compilation are identifiers that start with the marker exactly if no record with an underscore in
its type name declares an enumeration in line (`compile_isMarked_iff`).
-/

namespace ApiModels

open Naming Swift

/-- What can be set as the marker: an identifier, or nothing. -/
def IsMarker (marker : String) : Prop := marker = "" ∨ IsIdentifier marker

/-- An identifier that starts with the marker. -/
structure IsMarked (marker name : String) : Prop where
  identifier : IsIdentifier name
  marker : marker.toList <+: name.toList

/-! ### Characters -/

theorem isIdentifierChar_of_isWordChar {c : Char} (h : isWordChar c = true) :
    isIdentifierChar c = true :=
  Bool.or_eq_true_iff.2 (.inl h)

theorem not_isDigit_of_isIdentifierStart {c : Char} (h : isIdentifierStart c = true) :
    ¬ c.isDigit = true := by
  have hrange : (65 ≤ c.toNat ∧ c.toNat ≤ 90) ∨ (97 ≤ c.toNat ∧ c.toNat ≤ 122) ∨
      c.toNat = 95 := by
    have h : (decide (65 ≤ c.val ∧ c.val ≤ 90) ||
        decide (97 ≤ c.val) && decide (c.val ≤ 122) || c == '_') = true := h
    simp only [Bool.or_eq_true, Bool.and_eq_true, decide_eq_true_eq, beq_iff_eq,
      UInt32.le_iff_toNat_le] at h
    rcases h with (h | h) | rfl
    · exact .inl h
    · exact .inr (.inl h)
    · exact .inr (.inr rfl)
  intro hdigit
  have hdigits : 48 ≤ c.toNat ∧ c.toNat ≤ 57 := Char.isDigit_iff_toNat.1 hdigit
  omega

theorem underscore_not_mem {word : List Char} (h : ∀ c ∈ word, isWordChar c = true) :
    '_' ∉ word :=
  fun hmem => Bool.false_ne_true (h '_' hmem)

theorem isIdentifier_of_append {before name : String} (h : IsIdentifier before) {word : List Char}
    (hname : name.toList = before.toList ++ word) (hword : ∀ c ∈ word, isWordChar c = true) :
    IsIdentifier name := by
  obtain ⟨c, rest, hbefore, hstart, hrest⟩ := h
  refine ⟨c, rest ++ word, by rw [hname, hbefore, List.cons_append], hstart, fun d hd => ?_⟩
  rcases List.mem_append.1 hd with hd | hd
  · exact hrest d hd
  · exact isIdentifierChar_of_isWordChar (hword d hd)

/-! ### Type names -/

section TypeName

variable {s : NamingSettings}

theorem isWordChar_of_mem_filter (cs : List Char) :
    ∀ c ∈ cs.filter isWordChar, isWordChar c = true :=
  fun _ hc => (List.mem_filter.1 hc).2

/-- A type name is the marker with letters and digits behind it. -/
theorem exists_word_of_marker (h : IsIdentifier s.marker) (schema : String) :
    ∃ word, s.typeNameChars schema = s.marker.toList ++ word ∧
      ∀ c ∈ word, isWordChar c = true := by
  obtain ⟨m, marker, hmarker, hstart, -⟩ := id h
  -- The marker does not start with a digit, so nothing is put before it.
  have hguard : ∀ rest, guardDigit ['_'] (s.marker.toList ++ rest) = s.marker.toList ++ rest := by
    intro rest
    rw [hmarker, List.cons_append, guardDigit, if_neg (not_isDigit_of_isIdentifierStart hstart)]
  have hword := isWordChar_of_mem_filter (s.baseName schema)
  unfold NamingSettings.typeNameChars
  simp only
  generalize (s.baseName schema).filter isWordChar = word at hword ⊢
  by_cases hnil : word.isEmpty = true
  · have hne : ¬ s.marker.toList.isEmpty = true := by simp [hmarker]
    rw [if_pos hnil, if_neg hne]
    exact ⟨[], (List.append_nil _).symm, fun c hc => absurd hc List.not_mem_nil⟩
  · rw [if_neg hnil]
    by_cases hprefix : s.marker.toList.isPrefixOf word = true
    · obtain ⟨rest, hrest⟩ := List.isPrefixOf_iff_prefix.1 hprefix
      rw [if_pos hprefix, ← hrest, hguard]
      refine ⟨rest, rfl, fun c hc => hword c ?_⟩
      rw [← hrest]
      exact List.mem_append_right _ hc
    · rw [if_neg hprefix, hguard]
      exact ⟨word, rfl, hword⟩

/-- Without a marker a type name has letters and digits only, and an underscore before them if they
start with a digit. -/
theorem exists_word_of_no_marker (h : s.marker = "") (schema : String) :
    ∃ c word, (∀ d ∈ c :: word, isWordChar d = true) ∧
      s.typeNameChars schema = if c.isDigit then '_' :: c :: word else c :: word := by
  have hmarker : s.marker.toList = [] := by rw [h]; rfl
  have hword := isWordChar_of_mem_filter (s.baseName schema)
  unfold NamingSettings.typeNameChars
  simp only [hmarker]
  generalize (s.baseName schema).filter isWordChar = word at hword ⊢
  cases word with
  | nil => exact ⟨'U', "nnamed".toList, List.all_eq_true.1 (by decide), rfl⟩
  | cons c word => exact ⟨c, word, hword, rfl⟩

theorem typeName_cases (h : IsMarker s.marker) (schema : String) :
    (IsIdentifier (s.typeName schema) ∧ ∃ word,
      (s.typeName schema).toList = s.marker.toList ++ word ∧ ∀ c ∈ word, isWordChar c = true) ∨
    (s.marker = "" ∧ ∃ d word, (s.typeName schema).toList = '_' :: d :: word ∧
      d.isDigit = true ∧ ∀ c ∈ d :: word, isWordChar c = true) := by
  have hname : (s.typeName schema).toList = s.typeNameChars schema := String.toList_ofList
  rcases h with hempty | hidentifier
  · obtain ⟨c, word, hword, hchars⟩ := exists_word_of_no_marker hempty schema
    rw [hchars] at hname
    by_cases hdigit : c.isDigit = true
    · rw [if_pos hdigit] at hname
      exact .inr ⟨hempty, c, word, hname, hdigit, hword⟩
    · rw [if_neg hdigit] at hname
      have hstart := isIdentifierStart_of_not_isDigit
        (isIdentifierChar_of_isWordChar (hword c List.mem_cons_self)) hdigit
      refine .inl ⟨⟨c, word, hname, hstart, fun d hd => ?_⟩, c :: word, ?_, hword⟩
      · exact isIdentifierChar_of_isWordChar (hword d (List.mem_cons_of_mem c hd))
      · rw [hname, hempty]
        rfl
  · obtain ⟨word, hchars, hword⟩ := exists_word_of_marker hidentifier schema
    have heq := hname.trans hchars
    exact .inl ⟨isIdentifier_of_append hidentifier heq hword, word, heq, hword⟩

/-- **Type names are identifiers that start with the marker.** -/
theorem isMarked_typeName (h : IsMarker s.marker) (schema : String) :
    IsMarked s.marker (s.typeName schema) := by
  rcases typeName_cases h schema with ⟨hidentifier, word, hname, -⟩ |
    ⟨hempty, d, word, hname, -, hword⟩
  · exact ⟨hidentifier, hname ▸ List.prefix_append _ _⟩
  · refine ⟨⟨'_', d :: word, hname, rfl, fun c hc => ?_⟩, hempty ▸ List.nil_prefix⟩
    exact isIdentifierChar_of_isWordChar (hword c hc)

/-! ### Names of enumerations in line -/

theorem toList_inlineName (typeName property : String) :
    (inlineName typeName property).toList =
      typeName.toList.filter isWordChar ++ (pascalCase property).toList.filter isWordChar := by
  rw [inlineName, String.toList_ofList, String.toList_append, List.filter_append]

/-- **The name of an enumeration in line is an identifier that starts with the marker if the type
name of its record has no underscore**, and only then. -/
theorem isMarked_inlineName_iff (h : IsMarker s.marker) (schema property : String) :
    IsMarked s.marker (inlineName (s.typeName schema) property) ↔
      '_' ∉ (s.typeName schema).toList := by
  have hname := toList_inlineName (s.typeName schema) property
  constructor
  · rintro ⟨⟨c, rest, hc, hstart, -⟩, hprefix⟩ hunderscore
    rcases typeName_cases h schema with ⟨-, word, htype, hword⟩ | ⟨-, d, word, htype, hdigit, hword⟩
    · -- The underscore is one of the marker, and the name has none.
      have hmarker : '_' ∈ s.marker.toList := by
        rw [htype] at hunderscore
        exact (List.mem_append.1 hunderscore).resolve_right (underscore_not_mem hword)
      have hmem : '_' ∈ (inlineName (s.typeName schema) property).toList := hprefix.subset hmarker
      rw [hname] at hmem
      rcases List.mem_append.1 hmem with hmem | hmem
      · exact underscore_not_mem (isWordChar_of_mem_filter _) hmem
      · exact underscore_not_mem (isWordChar_of_mem_filter _) hmem
    · -- Without the underscore the name starts with the digit.
      have hskip : ('_' :: d :: word).filter isWordChar = d :: word := by
        rw [List.filter_cons_of_neg (by decide), List.filter_eq_self]
        exact hword
      rw [hname, htype, hskip, List.cons_append] at hc
      cases hc
      exact not_isDigit_of_isIdentifierStart hstart hdigit
  · intro hunderscore
    have hmarked := isMarked_typeName h schema
    have htype : (s.typeName schema).toList.filter isWordChar = (s.typeName schema).toList := by
      refine List.filter_eq_self.2 fun c hc => ?_
      have hchar := hmarked.identifier.isIdentifierChar hc
      rcases Bool.or_eq_true_iff.1 hchar with hword | heq
      · exact hword
      · cases beq_iff_eq.1 heq
        exact absurd hc hunderscore
    rw [htype] at hname
    refine ⟨isIdentifier_of_append hmarked.identifier hname (isWordChar_of_mem_filter _), ?_⟩
    rw [hname]
    exact hmarked.marker.trans (List.prefix_append _ _)

end TypeName

/-! ### Names of a compilation -/

namespace CompileContext

variable {d : Document} {settings : Settings}

theorem isMarked_owner (h : IsMarker settings.naming.marker) {owner : Owner}
    (howner : owner ∈ (ofDocument d settings).owners) :
    IsMarked settings.naming.marker owner.typeName := by
  rw [((mem_owners d settings).1 howner).2.2.1]
  exact isMarked_typeName h owner.schema

/-- The enumerations that a record declares have names that start with the marker, unless the type
name of the record has an underscore. -/
theorem isMarked_declaredEnums_iff (h : IsMarker settings.naming.marker) {record : LoweredRecord}
    (hrecord : record ∈ (ofDocument d settings).loweredRecords) :
    (∀ e ∈ (ofDocument d settings).declaredEnums record, IsMarked settings.naming.marker e.name) ↔
      ('_' ∈ record.owner.typeName.toList → (ofDocument d settings).declaredEnums record = []) := by
  have howner := (of_mem_loweredRecords hrecord).1
  have htype := ((mem_owners d settings).1 howner).2.2.1
  have hiff : ∀ e ∈ (ofDocument d settings).declaredEnums record,
      (IsMarked settings.naming.marker e.name ↔ '_' ∉ record.owner.typeName.toList) := by
    intro e he
    obtain ⟨field, -, hdeclared⟩ := List.mem_filterMap.1 he
    obtain ⟨-, values, -, rfl⟩ := declaredEnum?_eq_some_iff.1 hdeclared
    rw [enumOf, htype]
    exact isMarked_inlineName_iff h record.owner.schema field.source.name
  constructor
  · intro hmarked hunderscore
    refine List.eq_nil_iff_forall_not_mem.2 fun e he => ?_
    exact (hiff e he).1 (hmarked e he) hunderscore
  · intro hnone e he
    refine (hiff e he).2 fun hunderscore => ?_
    rw [hnone hunderscore] at he
    cases he

end CompileContext

/-- **When all names start with the marker.** The type names of schemas always do. The names of
enumerations in line do exactly if no record with an underscore in its type name declares one. -/
theorem compile_isMarked_iff {d : Document} {settings : Settings} {models : CompiledModels}
    (hmarker : IsMarker settings.naming.marker) (h : compile d settings = .ok models) :
    let ctx := CompileContext.ofDocument d settings
    (∀ owner ∈ ctx.owners, IsMarked settings.naming.marker owner.typeName) ∧
      ((∀ declaration ∈ models.declarations, IsMarked settings.naming.marker declaration.name) ↔
        ∀ record ∈ ctx.loweredRecords,
          '_' ∈ record.owner.typeName.toList → ctx.declaredEnums record = []) := by
  intro ctx
  obtain ⟨-, rfl⟩ := compile_eq_ok_iff.1 h
  have howners : ∀ owner ∈ ctx.owners, IsMarked settings.naming.marker owner.typeName :=
    fun owner => CompileContext.isMarked_owner hmarker
  refine ⟨howners, ?_⟩
  have hfiltered : ∀ keep : Owner → Bool, ∀ name ∈ (ctx.owners.filter keep).map (·.typeName),
      IsMarked settings.naming.marker name := by
    intro keep name hname
    obtain ⟨owner, howner, rfl⟩ := List.mem_map.1 hname
    exact howners owner (List.mem_filter.1 howner).1
  -- The names that are left to look at are those of the enumerations in line.
  have hinline : (∀ declaration ∈ ctx.declarations,
      IsMarked settings.naming.marker declaration.name) ↔
      ∀ record ∈ ctx.loweredRecords, ∀ e ∈ ctx.declaredEnums record,
        IsMarked settings.naming.marker e.name := by
    rw [← List.forall_mem_map (f := Declaration.name), ctx.name_declarations,
      List.forall_mem_append, List.forall_mem_append]
    constructor
    · intro hnames record hrecord e he
      exact hnames.1.2 _ (List.mem_map_of_mem (List.mem_flatMap_of_mem hrecord he))
    · intro hinline
      refine ⟨⟨hfiltered _, fun name hname => ?_⟩, hfiltered _⟩
      obtain ⟨e, he, rfl⟩ := List.mem_map.1 hname
      obtain ⟨record, hrecord, he⟩ := List.mem_flatMap.1 he
      exact hinline record hrecord e he
  rw [hinline]
  exact forall₂_congr fun record hrecord =>
    CompileContext.isMarked_declaredEnums_iff hmarker hrecord

/-- A schema whose name starts with a digit, with an enumeration in line. -/
def printDocument : Document where
  members := [
    ("components", .object [("schemas", .object [
      ("3d_print", .object [("properties", .object [
        ("size", .object [
          ("enum", .list [.text "small", .text "large"]), ("type", .text "string")])])])])])]
  sorted := by decide +kernel
  sections := by decide +kernel

/-- The default settings with another marker. -/
def Settings.withMarker (marker : String) : Settings :=
  { Settings.default with naming := { NamingSettings.default with marker := marker } }

/-- The only schema of the document, with its type name. -/
def printOwner (typeName : String) : Owner :=
  ⟨"3d_print", typeName, .object [⟨"size", false, none, .enumeration ["small", "large"]⟩]⟩

/-- With a marker of letters all names of the document start with it. -/
theorem compile_isMarked_print :
    let settings := Settings.withMarker "App"
    let ctx := CompileContext.ofDocument printDocument settings
    IsMarker "App" ∧ compile printDocument settings = .ok ⟨ctx.declarations, settings.render⟩ ∧
      ∀ declaration ∈ ctx.declarations, IsMarked "App" declaration.name := by
  intro settings ctx
  have hmarker : IsMarker settings.naming.marker := .inr (by decide)
  have hcompile : compile printDocument settings = .ok ⟨ctx.declarations, settings.render⟩ :=
    compile_eq_ok_iff.2 ⟨by decide +kernel, rfl⟩
  have howners : ctx.owners = [printOwner "App3dPrint"] := by decide +kernel
  refine ⟨hmarker, hcompile, (compile_isMarked_iff hmarker hcompile).2.2 ?_⟩
  intro record hrecord hunderscore
  have howner := (CompileContext.of_mem_loweredRecords hrecord).1
  rw [howners, List.mem_singleton] at howner
  rw [howner] at hunderscore
  exact absurd hunderscore (by decide)

theorem exists_inlineName_printDocument {marker typeName : String}
    (howners : (CompileContext.ofDocument printDocument (.withMarker marker)).owners =
      [printOwner typeName]) (hnew : inlineName typeName "size" ≠ typeName) :
    ∃ declaration ∈ (CompileContext.ofDocument printDocument (.withMarker marker)).declarations,
      declaration.name = inlineName typeName "size" := by
  have hwalk : (CompileContext.ofDocument printDocument (.withMarker marker)).walk []
      (.enumeration ["small", "large"]) = ⟨0, .inlineEnum ["small", "large"]⟩ := by
    rw [CompileContext.walk]
    rfl
  have htaken : [typeName].contains (inlineName typeName "size") = false := by
    simpa using hnew
  rw [CompileContext.declarations, CompileContext.recordsAndInline, howners]
  simp only [CompileContext.compileRecords, printOwner, Shape.role, CompileContext.compileRecord,
    CompileContext.fieldTypes, hwalk, CompileContext.settle, List.map_cons, List.map_nil, htaken]
  refine ⟨.enum _, List.mem_append_left _ (List.mem_append_right _ List.mem_cons_self), rfl⟩

/-- **Names of enumerations in line can lose the marker, and be no identifiers.** Without a marker
the name starts with a digit, and of a marker with an underscore it has the letters only. -/
theorem compile_not_isMarked :
    (∃ models, compile printDocument (.withMarker "") = .ok models ∧
      ∃ declaration ∈ models.declarations, ¬ IsIdentifier declaration.name) ∧
    ∃ models, compile printDocument (.withMarker "My_") = .ok models ∧
      ∃ declaration ∈ models.declarations, ¬ "My_".toList <+: declaration.name.toList := by
  refine ⟨⟨_, compile_eq_ok_iff.2 ⟨by decide +kernel, rfl⟩, ?_⟩,
    ⟨_, compile_eq_ok_iff.2 ⟨by decide +kernel, rfl⟩, ?_⟩⟩
  · obtain ⟨declaration, hmem, hname⟩ := @exists_inlineName_printDocument "" "_3dPrint"
      (by decide +kernel) (by decide +kernel)
    refine ⟨declaration, hmem, ?_⟩
    rw [hname]
    decide +kernel
  · obtain ⟨declaration, hmem, hname⟩ := @exists_inlineName_printDocument "My_" "My_3dPrint"
      (by decide +kernel) (by decide +kernel)
    refine ⟨declaration, hmem, ?_⟩
    rw [hname]
    decide +kernel

end ApiModels
