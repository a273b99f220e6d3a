import ApiModels.Declaration.Basic
import ApiModels.Naming
import ApiModels.Swift.Literal

/-!
# Forms of lines

What a line of Swift is recognised as: a doc line, the opening of a type, a property, or a line of
cases. Blanks between words are free, and modifiers in front are skipped. Each recogniser looks at
the start of a text and, where more may follow, gives the text after what it recognised.
-/

namespace ApiModels.Swift

open Text (isBlank trim trimStart trimEnd)

/-! ### Words -/

/-- The text after a word and the blanks that must follow it. -/
def afterWord? (word : String) (cs : List Char) : Option (List Char) :=
  match Text.after? word.toList cs with
  | some (c :: rest) => if isBlank c then some (trimStart rest) else none
  | _ => none

theorem length_trimStart_le (cs : List Char) : (trimStart cs).length ≤ cs.length := by
  induction cs with
  | nil => simp
  | cons c cs ih =>
    rw [trimStart, List.dropWhile_cons]
    split
    · exact Nat.le_succ_of_le ih
    · exact Nat.le_refl _

theorem length_afterWord?_lt {word : String} {cs rest : List Char}
    (h : afterWord? word cs = some rest) : rest.length < cs.length := by
  unfold afterWord? at h
  split at h
  · next c tail heq =>
    rw [Text.after?_eq_some_iff.1 heq]
    split at h
    · cases h
      have := length_trimStart_le tail
      simp only [List.length_append, List.length_cons]
      omega
    · cases h
  · cases h

/-- The text after the first of some words that it starts with. -/
def afterAnyWord? : List String → List Char → Option (List Char)
  | [], _ => none
  | word :: words, cs => (afterWord? word cs).or (afterAnyWord? words cs)

theorem length_afterAnyWord?_lt {words : List String} {cs rest : List Char}
    (h : afterAnyWord? words cs = some rest) : rest.length < cs.length := by
  induction words with
  | nil => cases h
  | cons word words ih =>
    rcases Option.or_eq_some_iff.1 h with h | ⟨_, h⟩
    · exact length_afterWord?_lt h
    · exact ih h

/-- The text after any number of the given words. -/
def skipWords (words : List String) (cs : List Char) : List Char :=
  match h : afterAnyWord? words cs with
  | some rest =>
    have := length_afterAnyWord?_lt h
    skipWords words rest
  | none => cs
termination_by cs.length

/-- A letter or underscore of ASCII. -/
def isIdentifierStart (c : Char) : Bool := c.isAlpha || c == '_'

/-- The identifier at the start of a text, and the text after it. -/
def identifier? (cs : List Char) : Option (List Char × List Char) :=
  match cs with
  | [] => none
  | c :: rest =>
    if isIdentifierStart c then
      some (c :: rest.takeWhile Naming.isIdentifierChar, rest.dropWhile Naming.isIdentifierChar)
    else none

/-- The text without the backtick that it starts with. -/
def skipBacktick : List Char → List Char
  | '\x60' :: cs => cs
  | cs => cs

/-! ### Doc lines -/

/-- The text of a doc line, without the blank after the slashes and those at the end. -/
def docText? (line : List Char) : Option (List Char) :=
  (Text.after? "///".toList (trimStart line)).map fun text =>
    match text with
    | c :: rest => if isBlank c then trimEnd rest else trimEnd text
    | [] => []

/-- The source that a doc text names after a header. -/
def sourceAfter? (header : String) (text : List Char) : Option (List Char) :=
  match Text.after? header.toList text with
  | some (c :: rest) =>
    if isBlank c && !(trim rest).isEmpty then some (trim rest) else none
  | _ => none

/-! ### Types -/

/-- The modifiers in front of a type. -/
def typeModifiers : List String :=
  ["public", "internal", "private", "fileprivate", "open", "final", "indirect"]

/-- The opening of a type. -/
structure TypeOpening where
  kind : DeclarationKind
  name : List Char
  conformances : List (List Char)
  deriving DecidableEq, Repr

/-- The kind of a type and the text after its keyword; a class counts as a record. -/
def typeKeyword? (cs : List Char) : Option (DeclarationKind × List Char) :=
  match afterWord? "struct" cs, afterWord? "enum" cs, afterWord? "class" cs with
  | some rest, _, _ => some (.struct, rest)
  | _, some rest, _ => some (.enum, rest)
  | _, _, some rest => some (.struct, rest)
  | none, none, none => none

/-- The conformances between the name of a type and its brace. -/
def conformances? (cs : List Char) : Option (List (List Char)) :=
  match trimStart cs with
  | '\x7b' :: _ => some []
  | ':' :: rest =>
    if rest.contains '\x7b' then
      let listed := rest.takeWhile (· != '\x7b')
      some (((Text.fields (· == ',') listed).map trim).filter (!·.isEmpty))
    else none
  | _ => none

/-- The opening of a type, up to its brace. -/
def typeOpening? (code : List Char) : Option TypeOpening := do
  let (kind, rest) ← typeKeyword? (skipWords typeModifiers (trimStart code))
  let (name, rest) ← identifier? rest
  return ⟨kind, name, ← conformances? rest⟩

/-! ### Properties -/

/-- The modifiers in front of a property. -/
def propertyModifiers : List String := ["public", "internal", "private", "fileprivate", "open"]

/-- A property as it is declared. -/
structure DeclaredProperty where
  name : List Char
  type : List Char
  isOptional : Bool
  deriving DecidableEq, Repr

/-- A type without the question mark at its end, and whether there was one. -/
def splitOptional (type : List Char) : List Char × Bool :=
  match type.reverse with
  | '?' :: rest => (trimEnd rest.reverse, true)
  | _ => (type, false)

/-- A property with its type; a value that it is set to is left out. -/
def property? (code : List Char) : Option DeclaredProperty := do
  let rest ← afterAnyWord? ["let", "var"] (skipWords propertyModifiers (trimStart code))
  let (name, rest) ← identifier? (skipBacktick rest)
  match trimStart (skipBacktick rest) with
  | ':' :: rest =>
    let declared := rest.takeWhile (· != '=')
    if declared.isEmpty then none
    else
      let (type, isOptional) := splitOptional (trim declared)
      some ⟨name, type, isOptional⟩
  | _ => none

/-! ### Cases -/

/-- The characters of a literal up to its closing quote, with their escapes, and the text after it.
An escape is a backslash with any character. -/
def literalBody? : List Char → Option (List Char × List Char)
  | [] => none
  | '"' :: rest => some ([], rest)
  | '\\' :: c :: rest => (literalBody? rest).map fun (body, rest) => ('\\' :: c :: body, rest)
  | ['\\'] => none
  | c :: rest => (literalBody? rest).map fun (body, rest) => (c :: body, rest)

/-- The literal that a case is set to, and the text after it. -/
def caseValue? (cs : List Char) : Option (List Char × List Char) :=
  match trimStart cs with
  | '=' :: rest =>
    match trimStart rest with
    | '"' :: rest => (literalBody? rest).map fun (body, rest) => (unescape body, rest)
    | _ => none
  | _ => none

/-- A case with the literal that it is set to. -/
structure CaseItem where
  identifier : List Char
  value : Option (List Char)
  deriving DecidableEq, Repr

/-- The case at the start of a text, and the text after it. -/
def caseItem? (cs : List Char) : Option (CaseItem × List Char) :=
  (identifier? (skipBacktick cs)).map fun (identifier, rest) =>
    let rest := skipBacktick rest
    match caseValue? rest with
    | some (value, rest) => (⟨identifier, some value⟩, rest)
    | none => (⟨identifier, none⟩, rest)

theorem length_skipBacktick_le (cs : List Char) : (skipBacktick cs).length ≤ cs.length := by
  unfold skipBacktick
  split <;> simp

theorem length_identifier?_lt {cs name rest : List Char} (h : identifier? cs = some (name, rest)) :
    rest.length < cs.length := by
  unfold identifier? at h
  split at h
  · cases h
  · next c tail =>
    split at h
    · cases h
      have : (tail.dropWhile Naming.isIdentifierChar).length ≤ tail.length :=
        (List.dropWhile_suffix _).length_le
      simp only [List.length_cons]
      omega
    · cases h

theorem length_literalBody?_lt {cs body rest : List Char}
    (h : literalBody? cs = some (body, rest)) : rest.length < cs.length := by
  fun_induction literalBody? cs generalizing body rest with
  | case1 => cases h
  | case2 tail => cases h; simp
  | case3 c tail ih =>
    obtain ⟨⟨_, _⟩, heq, hpair⟩ := Option.map_eq_some_iff.1 h
    cases hpair
    have := ih heq
    simp only [List.length_cons]
    omega
  | case4 => cases h
  | case5 c tail _ _ _ ih =>
    obtain ⟨⟨_, _⟩, heq, hpair⟩ := Option.map_eq_some_iff.1 h
    cases hpair
    have := ih heq
    simp only [List.length_cons]
    omega

theorem length_caseValue?_le {cs value rest : List Char}
    (h : caseValue? cs = some (value, rest)) : rest.length ≤ cs.length := by
  unfold caseValue? at h
  split at h
  · next tail heq =>
    split at h
    · next tail' heq' =>
      obtain ⟨⟨_, _⟩, hbody, hpair⟩ := Option.map_eq_some_iff.1 h
      cases hpair
      have h1 := length_literalBody?_lt hbody
      have h2 := length_trimStart_le cs
      have h3 := length_trimStart_le tail
      rw [heq] at h2
      rw [heq'] at h3
      simp only [List.length_cons] at h2 h3
      omega
    · cases h
  · cases h

theorem length_caseItem?_lt {cs rest : List Char} {item : CaseItem}
    (h : caseItem? cs = some (item, rest)) : rest.length < cs.length := by
  obtain ⟨⟨identifier, tail⟩, hid, hpair⟩ := Option.map_eq_some_iff.1 h
  have h1 := length_identifier?_lt hid
  have h2 := length_skipBacktick_le cs
  have h3 := length_skipBacktick_le tail
  dsimp only at hpair
  split at hpair
  · next heq =>
    cases hpair
    have := length_caseValue?_le heq
    omega
  · cases hpair
    omega

/-- The cases in a text; whatever is no case is passed over. -/
def caseItems (cs : List Char) : List CaseItem :=
  match h : caseItem? cs with
  | some (item, rest) =>
    have := length_caseItem?_lt h
    item :: caseItems rest
  | none =>
    match cs with
    | [] => []
    | _ :: rest => caseItems rest
termination_by cs.length

/-- The cases of a line of cases; none of any other line. -/
def lineCases (code : List Char) : List CaseItem :=
  let start := trimStart code
  match afterWord? "case" ((afterWord? "indirect" start).getD start) with
  | some rest => caseItems rest
  | none => []

end ApiModels.Swift
