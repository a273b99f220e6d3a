import ApiModels.Compilation.Description
import ApiModels.Proofs.Swift.Writable
import ApiModels.Proofs.Text.OneLine

/-!
# Descriptions in one line

What remains of a description without its links and keys is told by two relations, which cut the
text at the leftmost link and at a key that starts a line (`Flattens`, `DropsKeys`). Each relates a
text to exactly one other, which is the one that is computed (`remains_iff`).

The words of what remains are joined by spaces, and a text that is too long is cut
(`IsShortened`). So a description is one line that no character of it breaks, and there is none
exactly if only blanks remain (`cleanDescription_isOneLine`). In particular it can stand in a doc
line (`isDocText_of_cleanDescription`).
-/

namespace ApiModels

open Swift (IsDocText)
open Text (isBlank IsOneLine)

namespace Description

/-! ### Links and keys -/

/-- The text starts with a link of that label, which `rest` comes after: the label in brackets and,
right after it, a target in parentheses. Neither is empty, and each ends at the first character that
can end it. -/
def StartsWithLink (cs label rest : List Char) : Prop :=
  ∃ target, label ≠ [] ∧ ']' ∉ label ∧ target ≠ [] ∧ ')' ∉ target ∧
    cs = '[' :: label ++ ']' :: '(' :: target ++ ')' :: rest

/-- The second text is the first with every link replaced by its label, from the left. -/
inductive Flattens : List Char → List Char → Prop
  | nil : Flattens [] []
  | link {cs label rest flat : List Char} (hlink : StartsWithLink cs label rest)
    (hrest : Flattens rest flat) : Flattens cs (label ++ flat)
  | char {c : Char} {cs flat : List Char}
    (hnone : ∀ label rest, ¬ StartsWithLink (c :: cs) label rest) (hrest : Flattens cs flat) :
    Flattens (c :: cs) (c :: flat)

/-- The text starts with the key of a list line, which `rest` comes after: a hyphen, a space, the
key between backticks and a colon. -/
def StartsWithKey (cs rest : List Char) : Prop :=
  ∃ key, key ≠ [] ∧ '\x60' ∉ key ∧ cs = '-' :: ' ' :: '\x60' :: key ++ '\x60' :: ':' :: rest

/-- The second text is the first without the keys that start lines. -/
inductive DropsKeys : Bool → List Char → List Char → Prop
  | nil {atLineStart : Bool} : DropsKeys atLineStart [] []
  | key {cs rest left : List Char} (hkey : StartsWithKey cs rest)
    (hrest : DropsKeys false rest left) : DropsKeys true cs left
  | char {atLineStart : Bool} {c : Char} {cs left : List Char}
    (hnone : atLineStart = true → ∀ rest, ¬ StartsWithKey (c :: cs) rest)
    (hrest : DropsKeys (c == '\n') cs left) : DropsKeys atLineStart (c :: cs) (c :: left)

/-- What remains of a description without its links and keys. -/
def Remains (cs left : List Char) : Prop := ∃ flat, Flattens cs flat ∧ DropsKeys true flat left

/-- A text ends at the first character that closes it. -/
theorem enclosed?_eq_some_iff {close : Char} {cs inner rest : List Char} :
    enclosed? close cs = some (inner, rest) ↔
      inner ≠ [] ∧ close ∉ inner ∧ cs = inner ++ close :: rest := by
  unfold enclosed?
  constructor
  · intro h
    split at h
    · next c inside d after htake hdrop =>
      cases h
      have hd : d = close := by
        have hhead := List.head?_dropWhile_not (· != close) cs
        simpa [hdrop] using hhead
      refine ⟨List.cons_ne_nil _ _, fun hmem => ?_, ?_⟩
      · rw [← htake] at hmem
        simpa using List.mem_takeWhile_imp hmem
      · have hcs : cs.takeWhile (· != close) ++ cs.dropWhile (· != close) = cs :=
          List.takeWhile_append_dropWhile
        rw [htake, hdrop, hd] at hcs
        exact hcs.symm
    · cases h
  · rintro ⟨hne, hclose, rfl⟩
    obtain ⟨c, inside, rfl⟩ := List.exists_cons_of_ne_nil hne
    have hinner : ∀ d ∈ c :: inside, (d != close) = true := fun d hd => by
      rw [bne_iff_ne]
      exact ne_of_mem_of_not_mem hd hclose
    rw [List.takeWhile_append_of_pos hinner, List.dropWhile_append_of_pos hinner]
    simp

theorem link?_eq_some_iff {cs label rest : List Char} :
    link? cs = some (label, rest) ↔ StartsWithLink ('[' :: cs) label rest := by
  constructor
  · intro h
    unfold link? at h
    split at h
    · next label' after hlabel =>
      obtain ⟨⟨target, rest'⟩, htarget, heq⟩ := Option.map_eq_some_iff.1 h
      cases heq
      obtain ⟨hlabelNe, hbracket, rfl⟩ := enclosed?_eq_some_iff.1 hlabel
      obtain ⟨htargetNe, hparenthesis, rfl⟩ := enclosed?_eq_some_iff.1 htarget
      exact ⟨target, hlabelNe, hbracket, htargetNe, hparenthesis, by simp⟩
    · cases h
  · rintro ⟨target, hlabelNe, hbracket, htargetNe, hparenthesis, heq⟩
    have hcs : cs = label ++ ']' :: '(' :: (target ++ ')' :: rest) := by simpa using heq
    have hlabel := enclosed?_eq_some_iff.2 ⟨hlabelNe, hbracket, hcs⟩
    have htarget : enclosed? ')' (target ++ ')' :: rest) = some (target, rest) :=
      enclosed?_eq_some_iff.2 ⟨htargetNe, hparenthesis, rfl⟩
    simp only [link?, hlabel, htarget, Option.map_some]

theorem afterKey?_eq_some_iff {cs rest : List Char} :
    afterKey? cs = some rest ↔ StartsWithKey cs rest := by
  constructor
  · intro h
    unfold afterKey? at h
    split at h
    · split at h
      · next hkey =>
        cases h
        obtain ⟨hne, hbacktick, rfl⟩ := enclosed?_eq_some_iff.1 hkey
        exact ⟨_, hne, hbacktick, by simp⟩
      · cases h
    · cases h
  · rintro ⟨key, hne, hbacktick, rfl⟩
    have hkey : enclosed? '\x60' (key ++ '\x60' :: ':' :: rest) = some (key, ':' :: rest) :=
      enclosed?_eq_some_iff.2 ⟨hne, hbacktick, rfl⟩
    simp only [afterKey?, List.cons_append, hkey]

theorem StartsWithLink.unique {cs label rest label' rest' : List Char}
    (h : StartsWithLink cs label rest) (h' : StartsWithLink cs label' rest') :
    label = label' ∧ rest = rest' := by
  obtain ⟨tail, rfl⟩ : ∃ tail, cs = '[' :: tail := by
    obtain ⟨target, -, -, -, -, rfl⟩ := h
    exact ⟨_, rfl⟩
  have heq := (link?_eq_some_iff.2 h).symm.trans (link?_eq_some_iff.2 h')
  exact Prod.mk.inj (Option.some.inj heq)

theorem StartsWithKey.unique {cs rest rest' : List Char} (h : StartsWithKey cs rest)
    (h' : StartsWithKey cs rest') : rest = rest' :=
  Option.some.inj ((afterKey?_eq_some_iff.2 h).symm.trans (afterKey?_eq_some_iff.2 h'))

theorem not_startsWithLink_nil {label rest : List Char} : ¬ StartsWithLink [] label rest := by
  rintro ⟨target, -, -, -, -, heq⟩
  cases heq

theorem not_startsWithKey_nil {rest : List Char} : ¬ StartsWithKey [] rest := by
  rintro ⟨key, -, -, heq⟩
  cases heq

theorem not_startsWithLink_of_ne {c : Char} (hc : c ≠ '[') {cs label rest : List Char} :
    ¬ StartsWithLink (c :: cs) label rest := by
  rintro ⟨target, -, -, -, -, heq⟩
  exact hc (List.cons.inj heq).1

theorem flattens_flattenLinks (cs : List Char) : Flattens cs (flattenLinks cs) := by
  fun_induction flattenLinks cs with
  | case1 => exact .nil
  | case2 cs label rest hlink _ ih => exact .link (link?_eq_some_iff.1 hlink) ih
  | case3 cs hlink ih =>
    refine .char (fun label rest h => ?_) ih
    rw [link?_eq_some_iff.2 h] at hlink
    cases hlink
  | case4 c cs hc ih => exact .char (fun _ _ => not_startsWithLink_of_ne hc) ih

theorem Flattens.unique {cs flat flat' : List Char} (h : Flattens cs flat)
    (h' : Flattens cs flat') : flat = flat' := by
  induction h generalizing flat' with
  | nil =>
    cases h' with
    | nil => rfl
    | link hlink _ => exact absurd hlink not_startsWithLink_nil
  | link hlink _ ih =>
    cases h' with
    | nil => exact absurd hlink not_startsWithLink_nil
    | link hlink' hrest' =>
      obtain ⟨rfl, rfl⟩ := hlink.unique hlink'
      rw [ih hrest']
    | char hnone _ => exact absurd hlink (hnone _ _)
  | char hnone _ ih =>
    cases h' with
    | link hlink _ => exact absurd hlink (hnone _ _)
    | char _ hrest' => rw [ih hrest']

theorem dropsKeys_dropKeys (atLineStart : Bool) (cs : List Char) :
    DropsKeys atLineStart cs (dropKeys atLineStart cs) := by
  fun_induction dropKeys atLineStart cs with
  | case1 => exact .nil
  | case2 atLineStart c cs rest hkey _ ih =>
    cases atLineStart with
    | true => exact .key (afterKey?_eq_some_iff.1 hkey) ih
    | false => cases hkey
  | case3 atLineStart c cs hkey ih =>
    refine .char (fun hstart rest h => ?_) ih
    rw [dif_pos hstart, afterKey?_eq_some_iff.2 h] at hkey
    cases hkey

theorem DropsKeys.unique {atLineStart : Bool} {cs left left' : List Char}
    (h : DropsKeys atLineStart cs left) (h' : DropsKeys atLineStart cs left') : left = left' := by
  induction h generalizing left' with
  | nil =>
    cases h' with
    | nil => rfl
    | key hkey _ => exact absurd hkey not_startsWithKey_nil
  | key hkey _ ih =>
    cases h' with
    | nil => exact absurd hkey not_startsWithKey_nil
    | key hkey' hrest' =>
      obtain rfl := hkey.unique hkey'
      exact ih hrest'
    | char hnone _ => exact absurd hkey (hnone rfl _)
  | char hnone _ ih =>
    cases h' with
    | key hkey _ => exact absurd hkey (hnone rfl _)
    | char _ hrest' => rw [ih hrest']

/-- **What remains of a description is one text.** -/
theorem remains_iff {cs left : List Char} :
    Remains cs left ↔ left = dropKeys true (flattenLinks cs) := by
  constructor
  · rintro ⟨flat, hflat, hleft⟩
    rw [hflat.unique (flattens_flattenLinks cs)] at hleft
    exact hleft.unique (dropsKeys_dropKeys true _)
  · rintro rfl
    exact ⟨_, flattens_flattenLinks cs, dropsKeys_dropKeys true _⟩

/-! ### Texts that are too long -/

/-- A line as it is kept: whole up to 200 characters, and otherwise the first 197 without a space at
their end, with three points. -/
inductive IsShortened (line : List Char) : List Char → Prop
  | whole (hshort : line.length ≤ 200) : IsShortened line line
  | cut {front : List Char} (hlong : 200 < line.length) (hinitial : front <+: line)
    (hfront : line.take 197 = front ∨ line.take 197 = front ++ [' ']) :
    IsShortened line (front ++ ['.', '.', '.'])

theorem isShortened_shorten {line : List Char} (h : IsOneLine line) :
    IsShortened line (shorten line) := by
  unfold shorten
  by_cases hlong : maxLength < line.length
  · rw [if_pos hlong]
    exact .cut hlong ((Text.trimEnd_isPrefix _).trans (List.take_prefix _ _)) (h.take_cases _)
  · rw [if_neg hlong]
    exact .whole (Nat.not_lt.1 hlong)

/-- A space at which a line is cut is not kept. -/
example : shorten (List.replicate 196 'a' ++ " bbbb".toList) =
    List.replicate 196 'a' ++ "...".toList := by decide +kernel

theorem IsShortened.length_le {line text : List Char} (h : IsShortened line text) :
    text.length ≤ 200 := by
  cases h with
  | whole hshort => exact hshort
  | cut hlong _ hfront =>
    have htake : (line.take 197).length = 197 := List.length_take_of_le (by omega)
    rw [List.length_append]
    rcases hfront with hfront | hfront
    · rw [← hfront, htake]
      rfl
    · rw [hfront, List.length_append] at htake
      simp only [List.length_cons, List.length_nil] at htake ⊢
      omega

theorem isOneLine_shorten {line : List Char} (h : IsOneLine line) : IsOneLine (shorten line) := by
  unfold shorten
  split
  · have hfront : IsOneLine (Text.trimEnd (line.take (maxLength - 3))) :=
      h.trimEnd_take (by decide)
    have hpoints : ∀ c ∈ ['.', '.', '.'], isBlank c = false := by
      simp only [List.forall_mem_cons, List.not_mem_nil, false_imp_iff, implies_true, and_true,
        and_self]
      rfl
    exact hfront.append (Text.isOneLine_of_not_blank (List.cons_ne_nil _ _) hpoints)
  · exact h

/-! ### The line of a description -/

variable {raw text : String}

theorem cleanDescription_eq_none_iff :
    cleanDescription raw = none ↔ contentWords raw.toList = [] := by
  unfold cleanDescription
  split
  · next hwords => exact ⟨fun _ => hwords, fun _ => rfl⟩
  · next hwords => exact ⟨fun h => (nomatch h), fun h => absurd h hwords⟩

/-- The words of what remains are joined, and the line is shortened. -/
theorem exists_line_of_cleanDescription (h : cleanDescription raw = some text) :
    ∃ line, IsOneLine line ∧ Text.words line = contentWords raw.toList ∧
      text.toList = shorten line := by
  unfold cleanDescription at h
  split at h
  · cases h
  · next hwords =>
    cases h
    have hnonempty : ∀ word ∈ contentWords raw.toList, word ≠ [] :=
      fun _ => Text.ne_nil_of_mem_words
    have hblank : ∀ word ∈ contentWords raw.toList, ∀ c ∈ word, isBlank c = false :=
      fun _ hword _ => Text.not_blank_of_mem_words hword
    exact ⟨_, Text.isOneLine_join hnonempty hblank hwords, Text.words_join hnonempty hblank,
      String.toList_ofList⟩

theorem isDocText_of_isOneLine (h : IsOneLine text.toList) : IsDocText text where
  ne_empty := fun hempty => h.ne_nil (String.toList_eq_nil_iff.2 hempty)
  inOneLine := fun hfeed => absurd (h.eq_space '\n' hfeed rfl) (by decide)
  noBlankAtEnd := h.noBlankAtEnd

/-- The characters that break lines. -/
def lineBreaks : List Char := ['\n', '\x0b', '\x0c', '\r', '\x85', '\u2028', '\u2029']

theorem blank_of_mem_lineBreaks {c : Char} (h : c ∈ lineBreaks) :
    isBlank c = true ∧ c ≠ ' ' := by
  simp only [lineBreaks, List.mem_cons, List.not_mem_nil, or_false] at h
  rcases h with rfl | rfl | rfl | rfl | rfl | rfl | rfl <;> exact ⟨rfl, by decide⟩

/-- A line of the words of what remains of a description. -/
structure IsLineOf (left : List Char) (text : String) : Prop where
  oneLine : IsOneLine text.toList
  length_le : text.length ≤ 200
  /-- The words are kept in their order and joined by spaces, before the line is shortened. -/
  shortened : ∃ line, IsOneLine line ∧ Text.words line = Text.words left ∧
    IsShortened line text.toList
  noBreak : ∀ c ∈ lineBreaks, c ∉ text.toList
  /-- As a doc line it is one line of the source, whatever comes after it. -/
  docLine : ∀ (indent : Nat) (rest : List Char),
    Text.lines (Swift.docLine indent text ++ '\n' :: rest) =
      Swift.docLine indent text :: Text.lines rest

end Description

open Description

/-- **What is kept of a description can stand in a doc line.** -/
theorem isDocText_of_cleanDescription {raw text : String} (h : cleanDescription raw = some text) :
    IsDocText text := by
  obtain ⟨line, hline, -, htext⟩ := exists_line_of_cleanDescription h
  refine isDocText_of_isOneLine ?_
  rw [htext]
  exact isOneLine_shorten hline

/-- **A description is one line.** What remains without links and keys is one text; if it is blank
there is no description, and otherwise there is one: words with single spaces between them, at most
200 characters, none of which breaks the doc line that they stand in. They are the words of what
remains, kept whole, or cut and followed by three points if they are too long. -/
theorem cleanDescription_isOneLine (raw : String) :
    ∃ left, (∀ other, Remains raw.toList other ↔ other = left) ∧
      (cleanDescription raw = none ↔ ∀ c ∈ left, isBlank c = true) ∧
      ∀ text, cleanDescription raw = some text → IsLineOf left text := by
  refine ⟨_, fun other => remains_iff, ?_, fun text htext => ?_⟩
  · rw [cleanDescription_eq_none_iff, contentWords, Text.words_eq_nil_iff]
  · obtain ⟨line, hline, hwords, hshorten⟩ := exists_line_of_cleanDescription htext
    have hone : IsOneLine text.toList := hshorten ▸ isOneLine_shorten hline
    have hshortened : IsShortened line text.toList := hshorten ▸ isShortened_shorten hline
    refine ⟨hone, hshortened.length_le, ⟨line, hline, hwords, hshortened⟩, ?_, ?_⟩
    · intro c hc hmem
      obtain ⟨hblank, hspace⟩ := blank_of_mem_lineBreaks hc
      exact hspace (hone.eq_space c hmem hblank)
    · intro indent rest
      have hdoc : Text.IsLine (Swift.docLine indent text) :=
        Swift.isLine_docLine (isDocText_of_isOneLine hone)
      exact hdoc.lines_append rest

/-- A key, a link over two lines and blanks of other kinds. -/
theorem cleanDescription_isOneLine_docs :
    let raw := "- `auto`: see [the\u2028docs](https://example.com)\n\n for\tmore."
    let text := "see the docs for more."
    cleanDescription raw = some text ∧ ∃ left, Remains raw.toList left ∧ IsLineOf left text := by
  intro raw text
  have hclean : cleanDescription raw = some text := by decide +kernel
  obtain ⟨left, hleft, -, htext⟩ := cleanDescription_isOneLine raw
  exact ⟨hclean, left, (hleft left).2 rfl, htext text hclean⟩

end ApiModels
