import ApiModels.Proofs.Declaration.Written
import ApiModels.Proofs.Json.Typed
import ApiModels.Snapshot
import ApiModels.Swift.Loading

/-!
# Snapshots are read back

However a snapshot is spelled, the reader gives back its declarations
(`Snapshot.readsAs_reading`, `Snapshot.read_of_spells`). So it does with the pretty text that is
stored and with the compact one, and an artifact recognizes both as structured
(`snapshot_isStoredAs`).
-/

namespace ApiModels

open Json

namespace Snapshot

variable {fuel depth : Nat}

/-! ### Declarations -/

theorem readsMember_kind (kind : DeclarationKind) (before : List (String × Json)) :
    ReadsMember fuel (readDeclarationMember fuel depth (none, before) "kind") (.text kind.name)
      (some kind, before) := by
  have hkind : ReadsAs fuel (scalar fuel asKind) (.text kind.name) kind :=
    readsAs_scalar (.text _) (asKind_name kind)
  intro named inner rest hcolon hspells hfuel
  have hread := hkind inner rest hspells
    ((length_lt_of_skipSpaces_eq_cons hcolon).le.trans hfuel)
  unfold readDeclarationMember
  simp only [if_true, Option.isSome_none, Bool.false_eq_true, if_false, bind, pure, Except.bind,
    Except.pure, colon_eq hcolon, hread]

theorem readsMember_kept {kind : Option DeclarationKind} {name : String} (hname : name ≠ "kind")
    {value : Json} (hvalue : Readable depth value) (before : List (String × Json)) :
    ReadsMember fuel (readDeclarationMember fuel depth (kind, before) name) value
      (kind, (name, value) :: before) := by
  intro named inner rest hcolon hspells hfuel
  have hread := readsAs_readValue hvalue fuel inner rest hspells
    ((length_lt_of_skipSpaces_eq_cons hcolon).le.trans hfuel)
  unfold readDeclarationMember
  simp only [if_neg hname, bind, pure, Except.bind, Except.pure, colon_eq hcolon, hread]

theorem memberSteps_kept {kind : Option DeclarationKind} {members : List (String × Json)}
    (h : ∀ member ∈ members, member.1 ≠ "kind" ∧ Readable depth member.2)
    (before : List (String × Json)) : MemberSteps fuel (readDeclarationMember fuel depth)
      (kind, before) members (kind, members.reverse ++ before) :=
  memberSteps_keep (fun member hmember =>
    readsMember_kept (h member hmember).1 (h member hmember).2) before

/-- **A declaration is read back.** -/
theorem readsAs_readDeclaration (d : Declaration) :
    ReadsAs fuel (readDeclaration fuel (depth + 3)) d.toJson d := by
  -- The kind stands first; all that follows is kept, and decoded when the kind is known.
  have hsteps : MemberSteps fuel (readDeclarationMember fuel (depth + 2)) (none, [])
      (("kind", .text d.kind.name) :: d.members) (some d.kind, d.members.reverse ++ []) :=
    .cons (readsMember_kind d.kind []) (memberSteps_kept (d.readable_members depth) [])
  intro cs rest hspells hfuel
  rw [Declaration.toJson_eq] at hspells
  cases hspells with
  | @object _ _ inner _ hopen hspells =>
    have hinner : inner.length ≤ fuel := (length_lt_of_skipSpaces_eq_cons hopen).le.trans hfuel
    have hrun := objectMembers_of_spells hsteps hspells hinner hinner
    unfold readDeclaration
    rw [hopen]
    simp only [bind, Except.bind, hrun, List.append_nil, List.reverse_reverse, settleDeclaration,
      d.ofContent_members]

/-! ### Snapshots -/

/-- **A snapshot is read back**, however it is spelled. -/
theorem readsAs_reading {s : Snapshot} (hversion : s.formatVersion < Nat.pow 2 32) :
    ReadsAs fuel ((reading fuel (depth + 4)).read fuel (depth + 5)) s.toJson s := by
  have hword : s.formatVersion ≤ maxWord := hversion.le.trans (by decide)
  have hnat : ReadsAs fuel (scalar fuel (asNatBelow (Nat.pow 2 32) "u32"))
      (.ofNat s.formatVersion) s.formatVersion :=
    readsAs_scalar (.nat hword) (asNatBelow_ofNat hversion "u32")
  have hdeclarations : ReadsAs fuel (readList (readDeclaration fuel (depth + 3)) fuel (depth + 4))
      (.list (s.declarations.map Declaration.toJson)) s.declarations := by
    refine readsAs_readList ?_ (Nat.succ_ne_zero _)
    rw [List.forall₂_map_left_iff]
    exact List.forall₂_same.2 fun d _ => readsAs_readDeclaration d
  -- Each field is put into what the draft has of the fields before it.
  have hversionStep := hnat.map fun version : Nat => (⟨some version, none⟩ : Draft)
  have hdeclarationsStep := hdeclarations.map fun declarations : List Declaration =>
    (⟨some s.formatVersion, some declarations⟩ : Draft)
  refine readsAs_read (.cons (readsMember_readMember rfl rfl hversionStep)
    (.cons (readsMember_readMember rfl rfl hdeclarationsStep) (.nil _))) rfl (Nat.succ_ne_zero _)

theorem readable_toJson {s : Snapshot} (hversion : s.formatVersion ≤ maxWord) :
    Readable (depth + 5) s.toJson := by
  refine .object (List.forall_mem_cons.2 ⟨.nat hversion, List.forall_mem_singleton.2 ?_⟩)
  exact readable_map (fun d => d.readable_toJson depth) _

theorem newestVersion_lt : newestVersion < Nat.pow 2 32 := by decide

theorem newestVersion_le : newestVersion ≤ maxWord := by decide

/-- **A text that spells the snapshot of declarations is read as that snapshot.** -/
theorem read_of_spells {declarations : List Declaration} {text : String}
    (h : Spells (ofDeclarations declarations).toJson text.toList []) :
    read text = .ok (ofDeclarations declarations) := by
  have hreads := @readsAs_reading (text.length + 1) 122 (ofDeclarations declarations)
    newestVersion_lt
  have hread : readAny text = .ok (ofDeclarations declarations) :=
    readTyped_eq_ok hreads h (Nat.le_succ _)
  unfold read
  rw [hread]
  rfl

end Snapshot

/-! ### Loading -/

theorem ofText_of_brace {text : String} {rest : List Char} (h : text.toList = '\x7b' :: rest) :
    ArtifactFormat.ofText text = .structured := by
  unfold ArtifactFormat.ofText
  rw [h]
  rfl

theorem ofText_pretty (s : Snapshot) : ArtifactFormat.ofText s.pretty = .structured :=
  ofText_of_brace String.toList_ofList

theorem loadDeclarations_of_spells {declarations : List Declaration} {text : String}
    (h : Spells (Snapshot.ofDeclarations declarations).toJson text.toList [])
    (hformat : ArtifactFormat.ofText text = .structured) :
    loadDeclarations text = .ok (.structured, .ofList declarations) := by
  unfold loadDeclarations
  simp only [hformat, readDeclarations, Snapshot.read_of_spells h]
  rfl

/-- **The stored text of declarations is loaded as they are.** -/
theorem loadDeclarations_pretty (declarations : List Declaration) :
    loadDeclarations (Snapshot.ofDeclarations declarations).pretty =
      .ok (.structured, .ofList declarations) :=
  loadDeclarations_of_spells
    (spells_pretty (@Snapshot.readable_toJson 0 _ Snapshot.newestVersion_le)) (ofText_pretty _)

/-- A text from which a snapshot is read, and by which its declarations are loaded. -/
structure Snapshot.IsStoredAs (s : Snapshot) (text : String) : Prop where
  read : Snapshot.read text = .ok s
  /-- The text is recognized as structured, and of a name the first declaration counts. -/
  load : loadDeclarations text = .ok (.structured, s.toMap)

/-- **A snapshot loses nothing in its texts**, be they pretty or compact. -/
theorem snapshot_isStoredAs (declarations : List Declaration) :
    let s := Snapshot.ofDeclarations declarations
    s.IsStoredAs s.pretty ∧ s.IsStoredAs s.toJson.compact := by
  intro s
  have hreadable : Readable 5 s.toJson := Snapshot.readable_toJson Snapshot.newestVersion_le
  have hpretty : Spells s.toJson s.pretty.toList [] := spells_pretty hreadable
  have hcompact : Spells s.toJson s.toJson.compact.toList [] := spells_compact hreadable
  have hbrace : ArtifactFormat.ofText s.toJson.compact = .structured :=
    ofText_of_brace String.toList_ofList
  constructor
  · exact ⟨Snapshot.read_of_spells hpretty, loadDeclarations_pretty declarations⟩
  · exact ⟨Snapshot.read_of_spells hcompact, loadDeclarations_of_spells hcompact hbrace⟩

end ApiModels
