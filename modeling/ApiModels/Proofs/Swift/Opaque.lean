import ApiModels.Proofs.Swift.LineReading

/-!
# Literals are opaque

Whatever text a literal stands for, the readers of lines agree on where it ends: the unescaping, the
scan for a comment, the count of braces, and the reader of cases.

The scan for a comment compares single characters with a quote, a backslash and a slash. It may as
well be made over the bytes of the line: no byte of another character is one of those, so it cuts
the line at the same place (`dropCommentBytesFrom_utf8`).
-/

namespace ApiModels.Swift

/-! ### Bytes of characters -/

/-- The bytes of a text. -/
def utf8 (cs : List Char) : List UInt8 := cs.flatMap String.utf8EncodeChar

theorem utf8EncodeChar_of_lt {c : Char} (hc : c.toNat < 0x80) :
    String.utf8EncodeChar c = [UInt8.ofNat c.toNat] := by
  have hle : c.val.toNat ≤ 0x7F := Nat.le_of_lt_succ hc
  rw [String.utf8EncodeChar, if_pos hle]
  rfl

theorem le_of_mem_utf8EncodeChar {c : Char} (hc : 0x80 ≤ c.toNat) {b : UInt8}
    (hb : b ∈ String.utf8EncodeChar c) : 0x80 ≤ b.toNat := by
  have hlt : ¬ c.val.toNat ≤ 0x7F := Nat.not_le.2 hc
  simp only [String.utf8EncodeChar, if_neg hlt] at hb
  split at hb
  · simp only [List.mem_cons, List.not_mem_nil, or_false] at hb
    rcases hb with rfl | rfl <;> simp only [UInt8.toNat_ofNat'] <;> omega
  · split at hb
    · simp only [List.mem_cons, List.not_mem_nil, or_false] at hb
      rcases hb with rfl | rfl | rfl <;> simp only [UInt8.toNat_ofNat'] <;> omega
    · simp only [List.mem_cons, List.not_mem_nil, or_false] at hb
      rcases hb with rfl | rfl | rfl | rfl <;> simp only [UInt8.toNat_ofNat'] <;> omega

theorem utf8EncodeChar_ne_nil (c : Char) : String.utf8EncodeChar c ≠ [] := by
  rw [← List.length_pos_iff, String.length_utf8EncodeChar]
  exact c.utf8Size_pos

theorem eq_slash_of_mem_utf8EncodeChar {c : Char} (h : 0x2F ∈ String.utf8EncodeChar c) :
    c = '/' := by
  by_cases hc : c.toNat < 0x80
  · rw [utf8EncodeChar_of_lt hc, List.mem_singleton] at h
    have hcode : 0x2F = c.toNat % 256 := congrArg UInt8.toNat h
    refine Char.toNat_inj.1 ?_
    have hslash : '/'.toNat = 0x2F := rfl
    omega
  · exact absurd (le_of_mem_utf8EncodeChar (Nat.not_lt.1 hc) h) (by decide)

/-! ### The scan of bytes -/

/-- The state after a byte; it is compared with characters of ASCII. -/
def ScanState.nextByte (state : ScanState) (b : UInt8) : ScanState := state.next (Char.ofUInt8 b)

/-- The bytes up to a comment. -/
def dropCommentBytesFrom (state : ScanState) : List UInt8 → List UInt8
  | [] => []
  | b :: bs =>
    if state = .code ∧ b = 0x2F ∧ bs.head? = some 0x2F then []
    else b :: dropCommentBytesFrom (state.nextByte b) bs

/-- The bytes of a line without the comment at its end. -/
def dropCommentBytes (line : List UInt8) : List UInt8 := dropCommentBytesFrom .code line

/-- The state after a character that has no meaning of its own. -/
def ScanState.pass : ScanState → ScanState
  | .escaped => .literal
  | state => state

theorem next_eq_pass {c : Char} (hquote : c ≠ '"') (hbackslash : c ≠ '\\') (state : ScanState) :
    state.next c = state.pass := by
  cases state <;> simp [ScanState.next, ScanState.pass, hquote, hbackslash]

theorem pass_pass (state : ScanState) : state.pass.pass = state.pass := by
  cases state <;> rfl

/-- A sequence of bytes that are none of ASCII is passed as one character is. -/
theorem foldl_nextByte_of_le {bs : List UInt8} (hne : bs ≠ []) (h : ∀ b ∈ bs, 0x80 ≤ b.toNat)
    (state : ScanState) : bs.foldl ScanState.nextByte state = state.pass := by
  induction bs generalizing state with
  | nil => exact absurd rfl hne
  | cons b bs ih =>
    obtain ⟨hb, hbs⟩ := List.forall_mem_cons.1 h
    have hchar : ∀ {c : Char}, c.toNat < 0x80 → Char.ofUInt8 b ≠ c := by
      rintro c hc rfl
      exact absurd hc (Nat.not_lt.2 hb)
    have hstep : state.nextByte b = state.pass :=
      next_eq_pass (hchar (by decide)) (hchar (by decide)) state
    rw [List.foldl_cons, hstep]
    cases bs with
    | nil => rfl
    | cons b' bs => rw [ih (List.cons_ne_nil b' bs) hbs, pass_pass]

/-- The bytes of a character lead to the same state as the character. -/
theorem foldl_nextByte_utf8EncodeChar (c : Char) (state : ScanState) :
    (String.utf8EncodeChar c).foldl ScanState.nextByte state = state.next c := by
  by_cases hc : c.toNat < 0x80
  · have hchar : Char.ofUInt8 (UInt8.ofNat c.toNat) = c := by
      refine Char.toNat_inj.1 ?_
      change c.toNat % 256 = c.toNat
      omega
    rw [utf8EncodeChar_of_lt hc, List.foldl_cons, List.foldl_nil, ScanState.nextByte, hchar]
  · have hle : 0x80 ≤ c.toNat := Nat.not_lt.1 hc
    have hne : ∀ {d : Char}, d.toNat < 0x80 → c ≠ d := by
      rintro d hd rfl
      exact hc hd
    rw [foldl_nextByte_of_le (utf8EncodeChar_ne_nil c) fun b => le_of_mem_utf8EncodeChar hle,
      next_eq_pass (hne (by decide)) (hne (by decide))]

theorem dropCommentBytesFrom_append {bs : List UInt8} (hslash : 0x2F ∉ bs) (state : ScanState)
    (rest : List UInt8) : dropCommentBytesFrom state (bs ++ rest) =
      bs ++ dropCommentBytesFrom (bs.foldl ScanState.nextByte state) rest := by
  induction bs generalizing state with
  | nil => rfl
  | cons b bs ih =>
    rw [List.mem_cons, not_or] at hslash
    rw [List.cons_append, dropCommentBytesFrom, if_neg (fun h => hslash.1 h.2.1.symm),
      ih hslash.2, List.foldl_cons, List.cons_append]

theorem head?_utf8_eq_slash_iff {cs : List Char} :
    (utf8 cs).head? = some 0x2F ↔ cs.head? = some '/' := by
  cases cs with
  | nil => exact ⟨fun h => (nomatch h), fun h => (nomatch h)⟩
  | cons c cs =>
    have hhead : (utf8 (c :: cs)).head? = (String.utf8EncodeChar c).head? := by
      cases hbytes : String.utf8EncodeChar c with
      | nil => exact absurd hbytes (utf8EncodeChar_ne_nil c)
      | cons b bs => rw [utf8, List.flatMap_cons, hbytes]; rfl
    rw [hhead, List.head?_cons, Option.some.injEq]
    constructor
    · exact fun h => eq_slash_of_mem_utf8EncodeChar (List.mem_of_head? h)
    · rintro rfl
      rfl

/-- **The scan of the bytes cuts a line where the scan of its characters does.** -/
theorem dropCommentBytesFrom_utf8 (state : ScanState) (cs : List Char) :
    dropCommentBytesFrom state (utf8 cs) = utf8 (dropCommentFrom state cs) := by
  induction cs generalizing state with
  | nil => rfl
  | cons c cs ih =>
    have hcons : ∀ ds, utf8 (c :: ds) = String.utf8EncodeChar c ++ utf8 ds := fun ds =>
      List.flatMap_cons
    by_cases hc : c = '/'
    · -- One slash may start a comment, and the byte after it tells.
      subst hc
      have hnext : state.nextByte 0x2F = state.next '/' := foldl_nextByte_utf8EncodeChar '/' state
      rw [dropCommentFrom, hcons, show String.utf8EncodeChar '/' = [0x2F] from rfl,
        List.singleton_append, dropCommentBytesFrom, hnext, ih]
      simp only [head?_utf8_eq_slash_iff, true_and]
      split
      · rfl
      · rfl
    · have hslash : 0x2F ∉ String.utf8EncodeChar c := fun h =>
        hc (eq_slash_of_mem_utf8EncodeChar h)
      rw [dropCommentFrom, if_neg (fun h => hc h.2.1), hcons, hcons,
        dropCommentBytesFrom_append hslash, foldl_nextByte_utf8EncodeChar, ih]

/-! ### All readers of literals -/

/-- **Literals are opaque.** Whatever text a literal stands for, it is read back, and it breaks no
line. In code without quotes and comments before it, the scan for a comment keeps the literal and
goes on behind it as in code, over characters as over bytes; a comment there is dropped. The count
of braces has those before the literal and those behind it. And a case that is set to the literal is
read with that text, with or without backticks around its identifier. -/
theorem literal_isOpaque (x : List Char) :
    unescape (escape x) = x ∧ (∀ c ∈ ['\n', '\r', '\t'], c ∉ escape x) ∧
      (∀ p : List Char, '"' ∉ p → ¬ ['/', '/'] <:+: p →
        (∀ s, dropComment (p ++ '"' :: escape x ++ '"' :: s) =
            p ++ '"' :: escape x ++ '"' :: dropComment s) ∧
          (∀ s, dropCommentBytes (utf8 (p ++ '"' :: escape x ++ '"' :: s)) =
            utf8 (p ++ '"' :: escape x ++ '"' :: dropComment s)) ∧
          (∀ q, '"' ∉ q → ¬ ['/', '/'] <:+: q → q.getLast? ≠ some '/' → ∀ s,
            dropComment (p ++ '"' :: escape x ++ '"' :: (q ++ '/' :: '/' :: s)) =
              p ++ '"' :: escape x ++ '"' :: q) ∧
          (∀ s, depthChange (p ++ '"' :: escape x ++ '"' :: s) =
            depthChange p + depthChange s) ∧ depthChange p = braceSum p) ∧
      ∀ (identifier : String) (written : List Char), IsIdentifier identifier →
        IsSpelling identifier written →
          lineCases ("case ".toList ++ written ++ " = \"".toList ++ escape x ++ ['"']) =
            [⟨identifier.toList, some x⟩] := by
  refine ⟨unescape_escape x, fun c hc => not_mem_escape hc x, ?_, ?_⟩
  · intro p hquote hcomment
    have hkept := dropComment_append_literal hquote hcomment x
    refine ⟨hkept, fun s => ?_, fun q hq hqcomment hlast s => ?_,
      depthChange_append_literal hquote x, depthChangeFrom_code_of_noQuote hquote⟩
    · rw [dropCommentBytes, dropCommentBytesFrom_utf8, ← dropComment, hkept]
    · rw [hkept, dropComment_comment hq hqcomment hlast]
  · intro identifier written h hwritten
    have hline := lineCases_literal hwritten h 0 x
    simpa only [List.replicate_zero, List.nil_append, List.append_assoc] using hline

/-- A text with a backslash before a quote, a comment, a brace and a character of two bytes. -/
theorem literal_isOpaque_comment :
    let p := "x / \x7b ".toList
    let x := "\\\"//\x7b\né".toList
    let q := "\x7d ".toList
    ('"' ∉ p ∧ ¬ ['/', '/'] <:+: p ∧ '"' ∉ q ∧ ¬ ['/', '/'] <:+: q ∧ q.getLast? ≠ some '/' ∧
        IsIdentifier "default" ∧ IsSpelling "default" "\x60default\x60".toList) ∧
      dropComment (p ++ '"' :: escape x ++ '"' :: (q ++ '/' :: '/' :: " \"".toList)) =
        p ++ '"' :: escape x ++ '"' :: q ∧
      depthChange (p ++ '"' :: escape x ++ '"' :: q) = 0 ∧
      lineCases ("case ".toList ++ "\x60default\x60".toList ++ " = \"".toList ++ escape x ++
        ['"']) = [⟨"default".toList, some x⟩] := by
  intro p x q
  have hp : '"' ∉ p ∧ ¬ ['/', '/'] <:+: p := by decide +kernel
  have hq : '"' ∉ q ∧ ¬ ['/', '/'] <:+: q ∧ q.getLast? ≠ some '/' := by decide +kernel
  have h : IsIdentifier "default" := by decide
  have hwritten : IsSpelling "default" "\x60default\x60".toList := .inr (by decide)
  obtain ⟨-, -, hscan, hcase⟩ := literal_isOpaque x
  obtain ⟨-, -, hdropped, hdepth, -⟩ := hscan p hp.1 hp.2
  exact ⟨⟨hp.1, hp.2, hq.1, hq.2.1, hq.2.2, h, hwritten⟩, hdropped q hq.1 hq.2.1 hq.2.2 _,
    hdepth q, hcase "default" _ h hwritten⟩

end ApiModels.Swift
