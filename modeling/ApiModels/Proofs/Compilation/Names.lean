import ApiModels.Compilation.Basic

/-!
# Names of declarations and types of properties

By default the name of every declaration starts with the marker and consists of letters and digits
(`isGenerated_typeName`, `isGenerated_inlineName`), and none of the other types of properties does.
So the text inside the brackets of a written type is the name of a declaration only if the type was
built from that declaration (`named?_of_innermostType`).
-/

namespace ApiModels

/-- Letters and digits that start with the marker. -/
structure IsGenerated (name : String) : Prop where
  marker : "Generated".toList <+: name.toList
  word : ∀ c ∈ name.toList, Naming.isWordChar c = true

theorem exists_typeNameChars (schema : String) :
    ∃ rest, NamingSettings.default.typeNameChars schema = "Generated".toList ++ rest ∧
      ∀ c ∈ rest, Naming.isWordChar c = true := by
  have hguard : ∀ rest, Naming.guardDigit ['_'] ("Generated".toList ++ rest) =
      "Generated".toList ++ rest := fun rest => rfl
  have hword : ∀ c ∈ (NamingSettings.default.baseName schema).filter Naming.isWordChar,
      Naming.isWordChar c = true := fun c hc => (List.mem_filter.1 hc).2
  unfold NamingSettings.typeNameChars
  simp only
  generalize (NamingSettings.default.baseName schema).filter Naming.isWordChar = word at hword
  by_cases hempty : word.isEmpty = true
  · rw [if_pos hempty]
    exact ⟨[], rfl, fun c hc => nomatch hc⟩
  · rw [if_neg hempty]
    by_cases hprefix : NamingSettings.default.marker.toList.isPrefixOf word = true
    · obtain ⟨rest, rfl⟩ := List.isPrefixOf_iff_prefix.1 hprefix
      rw [if_pos hprefix]
      exact ⟨rest, hguard rest, fun c hc => hword c (List.mem_append_right _ hc)⟩
    · rw [if_neg hprefix]
      exact ⟨word, hguard word, hword⟩

theorem isGenerated_typeName (schema : String) :
    IsGenerated (NamingSettings.default.typeName schema) := by
  have hmarker : ∀ c ∈ "Generated".toList, Naming.isWordChar c = true :=
    List.all_eq_true.1 (by decide)
  obtain ⟨rest, heq, hrest⟩ := exists_typeNameChars schema
  have hname : (NamingSettings.default.typeName schema).toList = "Generated".toList ++ rest := by
    rw [NamingSettings.typeName, heq]
    exact String.toList_ofList
  refine ⟨?_, ?_⟩
  · rw [hname]
    exact List.prefix_append _ _
  · intro c hc
    rw [hname] at hc
    exact (List.mem_append.1 hc).elim (hmarker c) (hrest c)

theorem isGenerated_inlineName {typeName : String} (h : IsGenerated typeName) (property : String) :
    IsGenerated (inlineName typeName property) := by
  have hfilter : typeName.toList.filter Naming.isWordChar = typeName.toList :=
    List.filter_eq_self.2 h.word
  have hname : (inlineName typeName property).toList =
      typeName.toList ++ (pascalCase property).toList.filter Naming.isWordChar := by
    rw [inlineName, String.toList_ofList, String.toList_append, List.filter_append, hfilter]
  refine ⟨?_, ?_⟩
  · rw [hname]
    exact h.marker.trans (List.prefix_append _ _)
  · intro c hc
    rw [hname] at hc
    exact (List.mem_append.1 hc).elim (h.word c) fun hc => (List.mem_filter.1 hc).2

/-! ### Types of properties -/

namespace FieldType

/-- The type inside all sequences. -/
def innermost : FieldType → FieldType
  | .sequence item => item.innermost
  | type => type

/-- The number of sequences around the innermost type. -/
def depth : FieldType → Nat
  | .sequence item => item.depth + 1
  | _ => 0

theorem innermost_of_named? {t : FieldType} {name : String} (h : t.named? = some name) :
    t.innermost = .named name := by
  induction t with
  | sequence item ih => exact ih h
  | named other =>
    cases h
    rfl
  | _ => cases h

theorem toList_render (t : FieldType) : (t.render .default).toList =
    List.replicate t.depth '[' ++ (t.innermost.render .default).toList ++
      List.replicate t.depth ']' := by
  induction t with
  | sequence item ih =>
    have hlist : ((FieldType.sequence item).render .default).toList =
        '[' :: (item.render .default).toList ++ [']'] := by
      simp [render, RenderProfile.listOf, RenderProfile.default]
    rw [hlist, ih]
    simp only [depth, innermost]
    rw [List.replicate_succ, List.replicate_succ']
    simp
  | _ => simp [depth, innermost]

end FieldType

theorem dropWhile_eq_self_of_not_mem {c : Char} {cs : List Char} (h : c ∉ cs) :
    cs.dropWhile (· == c) = cs := by
  cases cs with
  | nil => rfl
  | cons d cs =>
    refine List.dropWhile_cons_of_neg ?_
    rw [beq_iff_eq]
    rintro rfl
    exact h List.mem_cons_self

theorem innermostType_of_brackets {type : String} {n : Nat} {text : List Char}
    (htype : type.toList = List.replicate n '[' ++ text ++ List.replicate n ']')
    (hopen : '[' ∉ text) (hclose : ']' ∉ text) :
    innermostType type = String.ofList text := by
  have hopened : (List.replicate n '[' ++ (text ++ List.replicate n ']')).dropWhile (· == '[') =
      text ++ List.replicate n ']' := by
    rw [List.dropWhile_append_of_pos (by simp)]
    refine dropWhile_eq_self_of_not_mem ?_
    simp [hopen]
  have hclosed : (text ++ List.replicate n ']').reverse.dropWhile (· == ']') = text.reverse := by
    rw [List.reverse_append, List.reverse_replicate, List.dropWhile_append_of_pos (by simp)]
    refine dropWhile_eq_self_of_not_mem ?_
    rw [List.mem_reverse]
    exact hclose
  unfold innermostType
  rw [htype, List.append_assoc, hopened, hclosed, List.reverse_reverse]

/-- The texts of the types that are no declarations have no brackets and do not start with the
marker. -/
theorem render_of_named?_eq_none {t : FieldType} (h : t.named? = none) :
    '[' ∉ (t.innermost.render .default).toList ∧ ']' ∉ (t.innermost.render .default).toList ∧
      ¬ "Generated".toList <+: (t.innermost.render .default).toList := by
  induction t with
  | sequence item ih => exact ih h
  | named name => cases h
  | _ => decide

theorem IsGenerated.not_mem {name : String} (h : IsGenerated name) {c : Char}
    (hc : Naming.isWordChar c = false) : c ∉ name.toList :=
  fun hmem => Bool.false_ne_true (hc.symm.trans (h.word c hmem))

theorem innermostType_of_named? {t : FieldType} {name : String} (hname : IsGenerated name)
    (h : t.named? = some name) : innermostType (t.render .default) = name := by
  have htext := t.toList_render
  rw [FieldType.innermost_of_named? h] at htext
  rw [innermostType_of_brackets htext (hname.not_mem rfl) (hname.not_mem rfl)]
  exact String.ofList_toList

/-- **The text inside the brackets of a type that is the name of a declaration is the declaration
that the type is built from.** -/
theorem named?_of_innermostType {t : FieldType} {name : String} (hname : IsGenerated name)
    (ht : ∀ other, t.named? = some other → IsGenerated other)
    (h : innermostType (t.render .default) = name) : t.named? = some name := by
  cases hnamed : t.named? with
  | some other => rw [← h, innermostType_of_named? (ht other hnamed) hnamed]
  | none =>
    obtain ⟨hopen, hclose, hmarker⟩ := render_of_named?_eq_none hnamed
    rw [innermostType_of_brackets t.toList_render hopen hclose, String.ofList_toList] at h
    rw [h] at hmarker
    exact absurd hname.marker hmarker

end ApiModels
