import ApiModels.Proofs.Reference.Edges
import ApiModels.Proofs.Text.Blank

/-!
# References written with escapes

In a reference the name of a schema is written with the two escapes of JSON pointers, so that a name
may have any characters. Resolving them one after the other, slashes before tildes, gives the name
back (`unescape_escape`): a tilde that was escaped is followed by a zero until the last step.

A reference that is written into the definition of a schema adds to what is mentioned there just the
name that it is written for (`Json.HasWritten.exists_referenceNames`), so the graph gains just the
edge to the schema of that name, if it did not have it (`ReferenceGraph.pointer_gainsEdge`).
-/

namespace ApiModels

namespace Reference

/-! ### Escapes -/

/-- A character of a name as it is written in a reference. -/
def escapeChar (c : Char) : List Char :=
  if c = '~' then ['~', '0'] else if c = '/' then ['~', '1'] else [c]

/-- A name as it is written in a reference. -/
def escape (name : List Char) : List Char := name.flatMap escapeChar

/-- A name with the escapes of its tildes alone. -/
def escapeTildes (name : List Char) : List Char :=
  name.flatMap fun c => if c = '~' then ['~', '0'] else [c]

/-- The reference to the schema of a name. -/
def pointer (name : String) : String := String.ofList (root ++ escape name.toList)

@[simp] theorem escape_tilde (name : List Char) :
    escape ('~' :: name) = '~' :: '0' :: escape name := rfl

@[simp] theorem escape_slash (name : List Char) :
    escape ('/' :: name) = ['~', '1'] ++ escape name := rfl

theorem escape_cons_of_ne {c : Char} (htilde : c ≠ '~') (hslash : c ≠ '/') (name : List Char) :
    escape (c :: name) = c :: escape name := by
  rw [escape, List.flatMap_cons, escapeChar, if_neg htilde, if_neg hslash]
  rfl

theorem not_isPrefix_of_ne {a b c : Char} (h : c ≠ a) (cs : List Char) : ¬ [a, b] <+: c :: cs :=
  fun hinitial => h (List.cons_prefix_cons.1 hinitial).1.symm

/-- The slashes are resolved first, and no zero behind a tilde is taken for the end of an escape. -/
theorem replaceAll_escape (name : List Char) :
    Text.replaceAll ['~', '1'] ['/'] (escape name) = escapeTildes name := by
  induction name with
  | nil => rfl
  | cons c name ih =>
    rw [escapeTildes, List.flatMap_cons, ← escapeTildes, ← ih]
    by_cases htilde : c = '~'
    · have hzero : ¬ ['~', '1'] <+: '~' :: '0' :: escape name := by
        rw [List.cons_prefix_cons, List.cons_prefix_cons]
        exact fun h => absurd h.2.1 (by decide)
      rw [htilde, escape_tilde, Text.replaceAll_cons_of_not_isPrefix hzero,
        Text.replaceAll_cons_of_not_isPrefix (not_isPrefix_of_ne (by decide) _)]
      rfl
    · rw [if_neg htilde]
      by_cases hslash : c = '/'
      · rw [hslash, escape_slash, Text.replaceAll_append (List.cons_ne_nil _ _)]
      · rw [escape_cons_of_ne htilde hslash,
          Text.replaceAll_cons_of_not_isPrefix (not_isPrefix_of_ne htilde _)]
        rfl

theorem replaceAll_escapeTildes (name : List Char) :
    Text.replaceAll ['~', '0'] ['~'] (escapeTildes name) = name := by
  induction name with
  | nil => rfl
  | cons c name ih =>
    rw [escapeTildes, List.flatMap_cons, ← escapeTildes]
    by_cases htilde : c = '~'
    · rw [if_pos htilde, Text.replaceAll_append (List.cons_ne_nil _ _), ih, htilde]
      rfl
    · rw [if_neg htilde, List.singleton_append,
        Text.replaceAll_cons_of_not_isPrefix (not_isPrefix_of_ne htilde _), ih]

/-- **Resolving the escapes of a name gives the name back.** -/
theorem unescape_escape (name : List Char) : unescape (escape name) = name := by
  rw [unescape, replaceAll_escape, replaceAll_escapeTildes]

theorem slash_not_mem_escape (name : List Char) : '/' ∉ escape name := by
  intro hmem
  obtain ⟨c, -, hc⟩ := List.mem_flatMap.1 hmem
  unfold escapeChar at hc
  split at hc
  · exact absurd hc (by decide)
  · split at hc
    · exact absurd hc (by decide)
    · next hslash => exact hslash (List.mem_singleton.1 hc).symm

theorem escape_eq_nil_iff {name : List Char} : escape name = [] ↔ name = [] := by
  constructor
  · intro h
    rw [← unescape_escape name, h]
    rfl
  · rintro rfl
    rfl

/-- **A reference names the schema that it is written for**, unless the name is empty. -/
theorem schemaName?_pointer {name : String} (hname : name ≠ "") :
    schemaName? (pointer name) = some name := by
  have hafter : Text.after? root (pointer name).toList = some (escape name.toList) := by
    rw [Text.after?_eq_some_iff, pointer, String.toList_ofList]
  have hne : (escape name.toList).isEmpty = false := by
    rw [← Bool.not_eq_true, List.isEmpty_iff, escape_eq_nil_iff, String.toList_eq_nil_iff]
    exact hname
  have hslash : (escape name.toList).contains '/' = false := by
    rw [← Bool.not_eq_true, List.contains_iff_mem]
    exact slash_not_mem_escape name.toList
  simp only [schemaName?, hafter, hne, hslash, Bool.or_self, Bool.false_eq_true, if_false,
    unescape_escape, String.ofList_toList]

end Reference

/-! ### Values with one part exchanged -/

namespace Json

/-- One value is the other with `b` in place of `a`, somewhere where the walk over the references
comes by: not beside a reference. -/
inductive Exchanges (a b : Json) : Json → Json → Prop
  | here : Exchanges a b a b
  | item {before after : List Json} {old new : Json} (h : Exchanges a b old new) :
    Exchanges a b (.list (before ++ old :: after)) (.list (before ++ new :: after))
  | member {before after : List (String × Json)} {key : String} {old new : Json}
      (hold : Reference.of? (before ++ (key, old) :: after) = none)
      (hnew : Reference.of? (before ++ (key, new) :: after) = none)
      (h : Exchanges a b old new) :
    Exchanges a b (.object (before ++ (key, old) :: after))
      (.object (before ++ (key, new) :: after))

theorem itemReferences_append (site : ReferenceSite) (before after : List Json) :
    itemReferences site (before ++ after) =
      itemReferences site before ++ itemReferences site after := by
  induction before with
  | nil => rfl
  | cons item before ih =>
    rw [List.cons_append, itemReferences, itemReferences, ih, List.append_assoc]

theorem memberReferences_append (site : ReferenceSite) (before after : List (String × Json)) :
    memberReferences site (before ++ after) =
      memberReferences site before ++ memberReferences site after := by
  induction before with
  | nil => rfl
  | cons member before ih =>
    obtain ⟨key, value⟩ := member
    rw [List.cons_append, memberReferences, memberReferences, ih, List.append_assoc]

/-- **The references in a value are those in the part that is exchanged**, with those before it and
those after it, which stay. -/
theorem Exchanges.exists_references {a b old new : Json} (h : Exchanges a b old new)
    (site : ReferenceSite) : ∃ site' front back,
      old.referencesAt site = front ++ a.referencesAt site' ++ back ∧
        new.referencesAt site = front ++ b.referencesAt site' ++ back := by
  induction h generalizing site with
  | here => exact ⟨site, [], [], (List.append_nil _).symm, (List.append_nil _).symm⟩
  | @item before after old new _ ih =>
    obtain ⟨site', front, back, hold, hnew⟩ := ih site
    refine ⟨site', itemReferences site before ++ front, back ++ itemReferences site after, ?_, ?_⟩
    · simp only [referencesAt, itemReferences_append, itemReferences, hold, List.append_assoc]
    · simp only [referencesAt, itemReferences_append, itemReferences, hnew, List.append_assoc]
  | @member before after key old new hnone hnone' _ ih =>
    obtain ⟨site', front, back, hold, hnew⟩ := ih ((ReferenceSite.ofMember? key).getD site)
    refine ⟨site', memberReferences site before ++ front, back ++ memberReferences site after,
      ?_, ?_⟩
    · simp only [referencesAt, hnone, memberReferences_append, memberReferences, hold,
        List.append_assoc]
    · simp only [referencesAt, hnone', memberReferences_append, memberReferences, hnew,
        List.append_assoc]

theorem referencesAt_eq_nil {value : Json} (h : value.references = []) (site : ReferenceSite) :
    value.referencesAt site = [] := by
  refine List.eq_nil_iff_forall_not_mem.2 fun reference hmem => ?_
  have hmentions := mentions_of_mem_referencesAt site value (List.mem_map_of_mem hmem)
  have hname := mem_referenceNames.2 hmentions
  rw [referenceNames, h] at hname
  exact List.not_mem_nil hname

/-- A reference is written into a value, in place of a part without references. -/
def HasWritten (reference : String) (old new : Json) : Prop :=
  ∃ part members, part.references = [] ∧ Reference.of? members = some reference ∧
    Exchanges part (.object members) old new

theorem HasWritten.exists_referenceNames {name : String} {old new : Json} (hname : name ≠ "")
    (h : HasWritten (Reference.pointer name) old new) : ∃ front back,
      old.referenceNames = front ++ back ∧ new.referenceNames = front ++ name :: back := by
  obtain ⟨part, members, hpart, hreference, hexchanges⟩ := h
  obtain ⟨site, front, back, hold, hnew⟩ := hexchanges.exists_references .schema
  have hwritten : (object members).referencesAt site = [(name, site)] := by
    simp only [referencesAt, hreference, Reference.schemaName?_pointer hname]
    rfl
  rw [referencesAt_eq_nil hpart, List.append_nil] at hold
  rw [hwritten, List.append_assoc, List.singleton_append] at hnew
  refine ⟨front.map (·.1), back.map (·.1), ?_, ?_⟩
  · rw [referenceNames, references, hold, List.map_append]
  · rw [referenceNames, references, hnew, List.map_append, List.map_cons]

end Json

/-! ### Graphs with one reference more -/

namespace ReferenceGraph

/-- A reference is written into the definition of one schema. -/
def HasWritten (reference source : String) (g g' : ReferenceGraph) : Prop :=
  ∃ before old new after, g.schemas = before ++ (source, old) :: after ∧
    g'.schemas = before ++ (source, new) :: after ∧ Json.HasWritten reference old new

/-- The graph has one edge between the two schemas; it has all edges that it had before and no
others, and what dangles is what dangled before. -/
structure GainsEdge (source target : String) (g g' : ReferenceGraph) : Prop where
  names : g'.names = g.names
  edge : (g'.edges.map (·.ends)).count (source, target) = 1
  edges : ∀ ends, ends ∈ g'.edges.map (·.ends) ↔
    ends ∈ g.edges.map (·.ends) ∨ ends = (source, target)
  dangling : g'.dangling = g.dangling

section OneSchema

/-! In a graph of which one schema is set apart. -/

variable {g : ReferenceGraph} {before after : List (String × Json)} {source : String}
  {schema : Json} (h : g.schemas = before ++ (source, schema) :: after)

include h

theorem mem_ends_edges_of_schemas_eq {a b : String} : (a, b) ∈ g.edges.map (·.ends) ↔
    ((∃ other, (a, other) ∈ before ++ after ∧ b ∈ other.referenceNames) ∨
      a = source ∧ b ∈ schema.referenceNames) ∧ b ∈ g.names := by
  rw [mem_ends_edges, h]
  simp only [List.mem_append, List.mem_cons, Prod.mk.injEq]
  constructor
  · rintro ⟨other, hbefore | ⟨rfl, rfl⟩ | hafter, hb, hname⟩
    · exact ⟨.inl ⟨other, .inl hbefore, hb⟩, hname⟩
    · exact ⟨.inr ⟨rfl, hb⟩, hname⟩
    · exact ⟨.inl ⟨other, .inr hafter, hb⟩, hname⟩
  · rintro ⟨⟨other, hbefore | hafter, hb⟩ | ⟨rfl, hb⟩, hname⟩
    · exact ⟨other, .inl hbefore, hb, hname⟩
    · exact ⟨other, .inr (.inr hafter), hb, hname⟩
    · exact ⟨schema, .inr (.inl ⟨rfl, rfl⟩), hb, hname⟩

theorem dangling_of_schemas_eq :
    g.dangling = (before.flatMap fun (name, other) =>
        (nameSet (other.referenceNames.filter (!g.contains ·))).map (name, ·)) ++
      (nameSet (schema.referenceNames.filter (!g.contains ·))).map (source, ·) ++
      after.flatMap fun (name, other) =>
        (nameSet (other.referenceNames.filter (!g.contains ·))).map (name, ·) := by
  rw [dangling, h, List.flatMap_append, List.flatMap_cons, List.append_assoc]

end OneSchema

section HasWritten

variable {g g' : ReferenceGraph} {source name : String}

theorem HasWritten.names_eq {reference : String} (h : HasWritten reference source g g') :
    g'.names = g.names := by
  obtain ⟨before, old, new, after, hg, hg', -⟩ := h
  simp only [names, hg, hg', List.map_append, List.map_cons]

variable (hname : name ≠ "") (hmem : name ∈ g.names)
  (h : HasWritten (Reference.pointer name) source g g')

include hname hmem h

/-- The edge to the schema of that name is the only new one. -/
theorem HasWritten.mem_ends_edges_iff {ends : String × String} :
    ends ∈ g'.edges.map (·.ends) ↔ ends ∈ g.edges.map (·.ends) ∨ ends = (source, name) := by
  have hnames := h.names_eq
  obtain ⟨before, old, new, after, hg, hg', hwritten⟩ := h
  obtain ⟨front, back, hold, hnew⟩ := hwritten.exists_referenceNames hname
  obtain ⟨a, b⟩ := ends
  have hb : b ∈ new.referenceNames ↔ b = name ∨ b ∈ old.referenceNames := by
    rw [hold, hnew, List.mem_append, List.mem_append, List.mem_cons, or_left_comm]
  rw [mem_ends_edges_of_schemas_eq hg, mem_ends_edges_of_schemas_eq hg', hnames, hb, Prod.mk.injEq]
  constructor
  · rintro ⟨hother | ⟨rfl, rfl | hold⟩, hb⟩
    · exact .inl ⟨.inl hother, hb⟩
    · exact .inr ⟨rfl, rfl⟩
    · exact .inl ⟨.inr ⟨rfl, hold⟩, hb⟩
  · rintro (⟨hother | ⟨rfl, hold⟩, hb⟩ | ⟨rfl, rfl⟩)
    · exact ⟨.inl hother, hb⟩
    · exact ⟨.inr ⟨rfl, .inr hold⟩, hb⟩
    · exact ⟨.inr ⟨rfl, .inl rfl⟩, hmem⟩

/-- The name that is added is that of a schema, and is left out of what dangles. -/
theorem HasWritten.dangling_eq : g'.dangling = g.dangling := by
  have hcontains : g'.contains = g.contains := by
    funext other
    simp only [contains, h.names_eq]
  obtain ⟨before, old, new, after, hg, hg', hwritten⟩ := h
  obtain ⟨front, back, hold, hnew⟩ := hwritten.exists_referenceNames hname
  have hcontained : g.contains name = true := List.contains_iff_mem.2 hmem
  have hfilter : new.referenceNames.filter (!g.contains ·) =
      old.referenceNames.filter (!g.contains ·) := by
    rw [hold, hnew, List.filter_append, List.filter_append,
      List.filter_cons_of_neg (by simp [hcontained])]
  rw [dangling_of_schemas_eq hg', dangling_of_schemas_eq hg, hcontains, hfilter]

end HasWritten

/-- **A reference to a schema is an edge to exactly that schema.** The reference is written with the
name of the schema in the escapes of pointers, whatever the name is, if it is not empty; it is read
as that name. When it is written into the definition of a schema, the graph gains the edge to the
schema of that name and no other, and nothing that dangles. -/
theorem pointer_gainsEdge {name : String} (hname : name ≠ "") :
    Reference.schemaName? (Reference.pointer name) = some name ∧
      ∀ (g g' : ReferenceGraph) (source : String), name ∈ g.names →
        HasWritten (Reference.pointer name) source g g' → GainsEdge source name g g' := by
  refine ⟨Reference.schemaName?_pointer hname, fun g g' source hmem hwritten => ?_⟩
  have hedge : (source, name) ∈ g'.edges.map (·.ends) :=
    (hwritten.mem_ends_edges_iff hname hmem).2 (.inr rfl)
  exact ⟨hwritten.names_eq, List.count_eq_one_of_mem (nodup_ends_edges g') hedge,
    fun _ => hwritten.mem_ends_edges_iff hname hmem, hwritten.dangling_eq hname hmem⟩

/-- Schemas of which one has a name with tildes and a slash; the other has a part that is left open,
and refers to a schema that is missing. -/
def petGraph (part : Json) : ReferenceGraph where
  schemas := [
    ("Pet", .object [("properties", .object [("tag", part),
      ("owner", .object [("$ref", .text "#/components/schemas/Owner")])])]),
    ("a~1/b~01", .object [("type", .text "string")])]

/-- A name that looks like escapes itself is referred to, and what dangled still does. -/
theorem pointer_gainsEdge_pet :
    let name := "a~1/b~01"
    let plain := petGraph (.object [("type", .text "string")])
    let referring := petGraph (.object [("$ref", .text "#/components/schemas/a~01~1b~001")])
    name ≠ "" ∧ Reference.pointer name = "#/components/schemas/a~01~1b~001" ∧
      Reference.schemaName? (Reference.pointer name) = some name ∧
      name ∈ plain.names ∧ HasWritten (Reference.pointer name) "Pet" plain referring ∧
      GainsEdge "Pet" name plain referring ∧ referring.dangling = [("Pet", "Owner")] := by
  intro name plain referring
  have hne : name ≠ "" := by decide
  have hpointer : Reference.pointer name = "#/components/schemas/a~01~1b~001" := by
    decide +kernel
  have hname : name ∈ plain.names := by decide
  have hexchanges : Json.Exchanges (.object [("type", .text "string")])
      (.object [("$ref", .text "#/components/schemas/a~01~1b~001")])
      (.object [("properties", .object [("tag", .object [("type", .text "string")]),
        ("owner", .object [("$ref", .text "#/components/schemas/Owner")])])])
      (.object [("properties", .object [
        ("tag", .object [("$ref", .text "#/components/schemas/a~01~1b~001")]),
        ("owner", .object [("$ref", .text "#/components/schemas/Owner")])])]) :=
    @Json.Exchanges.member _ _ [] [] "properties" _ _ rfl rfl
      (@Json.Exchanges.member _ _ [] _ "tag" _ _ rfl rfl .here)
  have hwritten : HasWritten (Reference.pointer name) "Pet" plain referring := by
    rw [hpointer]
    exact ⟨[], _, _, _, rfl, rfl, _, _, rfl, rfl, hexchanges⟩
  obtain ⟨hread, hgains⟩ := pointer_gainsEdge hne
  have hedge := hgains plain referring "Pet" hname hwritten
  have hdangling : plain.dangling = [("Pet", "Owner")] := by decide +kernel
  exact ⟨hne, hpointer, hread, hname, hwritten, hedge, hedge.dangling.trans hdangling⟩

end ReferenceGraph

end ApiModels
