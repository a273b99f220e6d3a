import ApiModels.Proofs.Change.Releases

/-!
# Changes and names in the data

A diff compares identifiers and types. The names that properties and cases have in the data do not
count: without them the diff is the same (`diff_withoutWires`). So a change that is not major keeps
the cases and the properties of what there was (`keepsMembers_of_severity`), and their names in the
data where these are the identifiers themselves (`keepsOwnNames_of_keepsMembers`).
-/

namespace ApiModels

/-! ### Declarations without the names in the data -/

/-- The property without its name in the data. -/
def Property.withoutWire (p : Property) : Property := { p with wireName := "" }

/-- The record without the names of its properties in the data. -/
def RecordType.withoutWires (r : RecordType) : RecordType :=
  { r with properties := r.properties.map Property.withoutWire }

/-- The enumeration without the literals of its cases. -/
def EnumType.withoutWires (e : EnumType) : EnumType :=
  { e with cases := e.cases.map fun c => { c with value := "" } }

/-- The declaration without the names of its properties and cases in the data. -/
def Declaration.withoutWires : Declaration → Declaration
  | .record r => .record r.withoutWires
  | .enum e => .enum e.withoutWires

/-- The declarations without the names of their properties and cases in the data. -/
def DeclarationMap.withoutWires (m : DeclarationMap) : DeclarationMap where
  entries := m.entries.map fun entry => (entry.1, entry.2.withoutWires)
  ascending := by
    rw [Ascending, List.pairwise_map]
    exact m.ascending

theorem propertyNames_withoutWires (r : RecordType) :
    r.withoutWires.propertyNames = r.propertyNames := by
  rw [RecordType.propertyNames, RecordType.withoutWires, List.map_map]
  rfl

theorem property?_withoutWires (r : RecordType) (name : String) :
    r.withoutWires.property? name = (r.property? name).map Property.withoutWire := by
  rw [RecordType.property?, RecordType.withoutWires, List.find?_map]
  rfl

theorem identifiers_withoutWires (e : EnumType) :
    e.withoutWires.identifiers = e.identifiers := by
  rw [EnumType.identifiers, EnumType.withoutWires, List.map_map]
  rfl

theorem kind_withoutWires (d : Declaration) : d.withoutWires.kind = d.kind := by
  cases d <;> rfl

/-! ### Changes without the names in the data -/

section Erased

theorem entries_withoutWires (m : DeclarationMap) : m.withoutWires.entries =
    m.entries.map fun entry => (entry.1, entry.2.withoutWires) := rfl

theorem keys_withoutWires (m : DeclarationMap) : m.withoutWires.keys = m.keys := by
  rw [Keyed.keys, entries_withoutWires, List.map_map]
  rfl

theorem get?_withoutWires (m : DeclarationMap) (name : String) :
    m.withoutWires.get? name = (m.get? name).map Declaration.withoutWires := by
  rw [Keyed.get?, entries_withoutWires, Keyed.get?]
  induction m.entries with
  | nil => rfl
  | cons entry entries ih =>
    rw [List.map_cons, lookup_cons_eq_ite, lookup_cons_eq_ite, ih]
    split <;> rfl

theorem contains_withoutWires (m : DeclarationMap) (name : String) :
    m.withoutWires.contains name = m.contains name := by
  rw [Keyed.contains, get?_withoutWires, Option.isSome_map, Keyed.contains]

theorem commonDeclarations_withoutWires (old new : DeclarationMap) :
    commonDeclarations old.withoutWires new.withoutWires =
      (commonDeclarations old new).map fun (name, before, after) =>
        (name, before.withoutWires, after.withoutWires) := by
  unfold commonDeclarations
  rw [List.map_filterMap, entries_withoutWires, List.filterMap_map]
  refine List.filterMap_congr fun entry _ => ?_
  simp only [Function.comp_apply, get?_withoutWires]
  cases new.get? entry.1 <;> rfl

theorem typeChange_withoutWires (mark : String) (r s : RecordType) (name : String) :
    typeChange mark r.withoutWires s.withoutWires name = typeChange mark r s name := by
  simp only [typeChange, property?_withoutWires]
  cases r.property? name <;> cases s.property? name <;> rfl

theorem declarationDiff_withoutWires (mark : String) (d e : Declaration) :
    declarationDiff mark d.withoutWires e.withoutWires = declarationDiff mark d e := by
  cases d with
  | record r =>
    cases e with
    | record s =>
      have htypes : typeChange mark r.withoutWires s.withoutWires = typeChange mark r s :=
        funext (typeChange_withoutWires mark r s)
      simp only [Declaration.withoutWires, declarationDiff, recordDiff,
        propertyNames_withoutWires, htypes]
      rfl
    | enum f => rfl
  | enum e' =>
    cases e with
    | record s => rfl
    | enum f =>
      simp only [Declaration.withoutWires, declarationDiff, enumDiff, identifiers_withoutWires]
      rfl

/-- **A diff does not look at names in the data.** -/
theorem diff_withoutWires (profile : RenderProfile) (old new : DeclarationMap) :
    diff profile old.withoutWires new.withoutWires = diff profile old new := by
  -- Declarations enter a diff by their changed members and by their kinds only.
  have hmembers : (commonDeclarations old.withoutWires new.withoutWires).map
      (fun (_, before, after) => declarationDiff profile.optionalMark before after) =
        (commonDeclarations old new).map
          fun (_, before, after) => declarationDiff profile.optionalMark before after := by
    rw [commonDeclarations_withoutWires, List.map_map]
    exact List.map_congr_left fun _ _ => declarationDiff_withoutWires _ _ _
  have hkinds : ((commonDeclarations old.withoutWires new.withoutWires).filter
      fun (_, before, after) => before.kind != after.kind).map (·.1) =
        ((commonDeclarations old new).filter
          fun (_, before, after) => before.kind != after.kind).map (·.1) := by
    rw [commonDeclarations_withoutWires, List.filter_map, List.map_map]
    simp only [Function.comp_def, kind_withoutWires]
  unfold diff
  simp only [hmembers, hkinds, keys_withoutWires, contains_withoutWires]

end Erased

/-! ### What a change keeps -/

/-- The declarations of one set are in another one with all their cases and properties; the first
property of each name has the same type. -/
structure DeclarationMap.KeepsMembers (mark : String) (old new : DeclarationMap) : Prop where
  cases : ∀ type e, old.get? type = some (.enum e) → ∃ f, new.get? type = some (.enum f) ∧
    ∀ c ∈ e.cases, ∃ c' ∈ f.cases, c'.identifier = c.identifier
  properties : ∀ type r, old.get? type = some (.record r) → ∃ s, new.get? type = some (.record s) ∧
    ∀ name, ∀ p ∈ r.property? name, ∃ q ∈ s.property? name,
      q.renderedType mark = p.renderedType mark

/-- Where the names in the data are the identifiers, they stay the same. -/
structure DeclarationMap.KeepsOwnNames (old new : DeclarationMap) : Prop where
  cases : ∀ type e f, old.get? type = some (.enum e) → new.get? type = some (.enum f) →
    (∀ c ∈ e.cases, c.value = c.identifier) → (∀ c ∈ f.cases, c.value = c.identifier) →
    ∀ c ∈ e.cases, c ∈ f.cases
  properties : ∀ type r s, old.get? type = some (.record r) → new.get? type = some (.record s) →
    r.needsWireNames = false → s.needsWireNames = false →
    ∀ p ∈ r.properties, ∃ q ∈ s.properties, q.name = p.name ∧ q.wireName = p.wireName

section Kept

variable {mark : String} {old new : DeclarationMap}

theorem keepsMembers_of_isKeptIn (h : old.IsKeptIn mark new) : old.KeepsMembers mark new := by
  constructor
  case cases =>
    intro type e he
    obtain ⟨after, hafter, hkept⟩ := h type _ he
    cases after with
    | record s => cases hkept.kind
    | enum f =>
      refine ⟨f, hafter, fun c hc => ?_⟩
      exact List.mem_map.1 (hkept.cases c.identifier (List.mem_map_of_mem hc))
  case properties =>
    intro type r hr
    obtain ⟨after, hafter, hkept⟩ := h type _ hr
    cases after with
    | enum f => cases hkept.kind
    | record s =>
      refine ⟨s, hafter, fun name p hp => ?_⟩
      have htype : r.propertyType? mark name = some (p.renderedType mark) := by
        rw [RecordType.propertyType?, Option.mem_def.1 hp, Option.map_some]
      obtain ⟨q, hq, hrendered⟩ := Option.map_eq_some_iff.1 (hkept.properties name _ htype)
      exact ⟨q, hq, hrendered⟩

theorem keepsMembers_of_severity {profile : RenderProfile}
    (h : (diff profile old new).severity ≠ .major) :
    old.KeepsMembers profile.optionalMark new :=
  keepsMembers_of_isKeptIn (severity_le_minor_iff.1 (Severity.le_minor_iff.2 h))

/-- Every property is found by its name, though another one of that name may be found. -/
theorem exists_property? {r : RecordType} {p : Property} (hp : p ∈ r.properties) :
    ∃ q, r.property? p.name = some q := by
  rw [← Option.isSome_iff_exists, RecordType.property?, List.find?_isSome]
  exact ⟨p, hp, beq_iff_eq.2 rfl⟩

theorem wireName_eq_name {r : RecordType} (h : r.needsWireNames = false) {p : Property}
    (hp : p ∈ r.properties) : p.wireName = p.name := by
  have hsame := List.any_eq_false.1 h p hp
  simpa using Eq.symm (by simpa using hsame)

theorem DeclarationMap.KeepsMembers.case_of_enums (h : old.KeepsMembers mark new) {type : String}
    {e f : EnumType} (he : old.get? type = some (.enum e)) (hf : new.get? type = some (.enum f))
    {c : EnumCase} (hc : c ∈ e.cases) : ∃ c' ∈ f.cases, c'.identifier = c.identifier := by
  obtain ⟨f', hf', hkept⟩ := h.cases type e he
  cases hf.symm.trans hf'
  exact hkept c hc

theorem DeclarationMap.KeepsMembers.property_of_records (h : old.KeepsMembers mark new)
    {type : String} {r s : RecordType} (hr : old.get? type = some (.record r))
    (hs : new.get? type = some (.record s)) {p : Property} (hp : p ∈ r.properties) :
    ∃ q ∈ s.properties, q.name = p.name := by
  obtain ⟨s', hs', hkept⟩ := h.properties type r hr
  cases hs.symm.trans hs'
  obtain ⟨first, hfirst⟩ := exists_property? hp
  obtain ⟨q, hq, -⟩ := hkept p.name first hfirst
  exact ⟨q, List.mem_of_find?_eq_some hq, by simpa using List.find?_some (Option.mem_def.1 hq)⟩

/-- Kept members keep their names in the data where these are the identifiers. -/
theorem keepsOwnNames_of_keepsMembers (h : old.KeepsMembers mark new) :
    old.KeepsOwnNames new := by
  constructor
  case cases =>
    intro type e f he hf heown hfown c hc
    obtain ⟨c', hc', hidentifier⟩ := h.case_of_enums he hf hc
    -- Both literals are the identifier, so the two cases are one.
    have hvalue : c'.value = c.value := by
      rw [hfown c' hc', hidentifier, heown c hc]
    have heq : c' = c := by
      cases c'
      cases c
      exact congrArg₂ EnumCase.mk hidentifier hvalue
    exact heq ▸ hc'
  case properties =>
    intro type r s hr hs hrown hsown p hp
    obtain ⟨q, hq, hname⟩ := h.property_of_records hr hs hp
    refine ⟨q, hq, hname, ?_⟩
    rw [wireName_eq_name hsown hq, wireName_eq_name hrown hp, hname]

end Kept

end ApiModels
