import ApiModels.Text.Blank

/-!
# Descriptions in one line

A description becomes a doc comment of one line: links are replaced by their labels, the keys that
start list lines are dropped, blanks between words become one space, and a long text is cut.
-/

namespace ApiModels

namespace Description

/-- The nonempty text before the first `close`, and the text after it. -/
def enclosed? (close : Char) (cs : List Char) : Option (List Char × List Char) :=
  match cs.takeWhile (· != close), cs.dropWhile (· != close) with
  | c :: inner, _ :: rest => some (c :: inner, rest)
  | _, _ => none

theorem length_enclosed?_lt {close : Char} {cs inner rest : List Char}
    (h : enclosed? close cs = some (inner, rest)) : rest.length < cs.length := by
  have hlen : cs.length = (cs.takeWhile (· != close)).length +
      (cs.dropWhile (· != close)).length := by
    rw [← List.length_append, List.takeWhile_append_dropWhile]
  unfold enclosed? at h
  split at h
  · next heq =>
    cases h
    rw [hlen, heq, List.length_cons]
    omega
  · cases h

/-! ### Links -/

/-- The label of a link and the text after the link, of which the opening bracket has been read. A
link is a label in brackets and, right after it, a target in parentheses; neither is empty. -/
def link? (cs : List Char) : Option (List Char × List Char) :=
  match enclosed? ']' cs with
  | some (label, '(' :: rest) => (enclosed? ')' rest).map fun (_, rest) => (label, rest)
  | _ => none

theorem length_link?_lt {cs label rest : List Char} (h : link? cs = some (label, rest)) :
    rest.length < cs.length := by
  unfold link? at h
  split at h
  · next hlabel =>
    obtain ⟨⟨_, _⟩, htarget, heq⟩ := Option.map_eq_some_iff.1 h
    cases heq
    have h1 := length_enclosed?_lt hlabel
    have h2 := length_enclosed?_lt htarget
    simp only [List.length_cons] at h1
    omega
  · cases h

/-- The text with every link replaced by its label. -/
def flattenLinks : List Char → List Char
  | [] => []
  | c :: cs =>
    if c = '[' then
      match h : link? cs with
      | some (label, rest) =>
        have := length_link?_lt h
        label ++ flattenLinks rest
      | none => c :: flattenLinks cs
    else c :: flattenLinks cs
termination_by cs => cs.length

/-! ### List keys -/

/-- The text after the key that starts a list line: a hyphen, a space and, between backticks and
before a colon, the key. -/
def afterKey? (cs : List Char) : Option (List Char) :=
  match cs with
  | '-' :: ' ' :: '\x60' :: rest =>
    match enclosed? '\x60' rest with
    | some (_, ':' :: rest) => some rest
    | _ => none
  | _ => none

theorem length_afterKey?_lt {cs rest : List Char} (h : afterKey? cs = some rest) :
    rest.length < cs.length := by
  unfold afterKey? at h
  split at h
  · split at h
    · next hkey =>
      cases h
      have := length_enclosed?_lt hkey
      simp only [List.length_cons] at this ⊢
      omega
    · cases h
  · cases h

/-- The text without the keys that start lines. -/
def dropKeys (atLineStart : Bool) : List Char → List Char
  | [] => []
  | c :: cs =>
    match h : if atLineStart then afterKey? (c :: cs) else none with
    | some rest =>
      have : rest.length < cs.length + 1 := by
        split at h
        · exact length_afterKey?_lt h
        · cases h
      dropKeys false rest
    | none => c :: dropKeys (c == '\n') cs
termination_by cs => cs.length

/-! ### One line -/

/-- The greatest length of a description. -/
def maxLength : Nat := 200

/-- The words of a description, after links and keys. -/
def contentWords (cs : List Char) : List (List Char) :=
  Text.words (dropKeys true (flattenLinks cs))

/-- A text that is too long is cut and ends with three points. -/
def shorten (cs : List Char) : List Char :=
  if maxLength < cs.length then Text.trimEnd (cs.take (maxLength - 3)) ++ ['.', '.', '.'] else cs

end Description

/-- The description in one line; none if no words are left. -/
def cleanDescription (raw : String) : Option String :=
  match Description.contentWords raw.toList with
  | [] => none
  | words => some (String.ofList (Description.shorten (Text.join [' '] words)))

end ApiModels
