import Mathlib.Data.Bool.AllAny
import BeanBuilder.Java.Lexer
import BeanBuilder.Proofs.Java.Names

/-! # Texts that are scanned

`Scans cs ts rest` says that from the text `cs` the tokens `ts` are read and the text `rest` is
left.  Every token is read with all the text behind it in place, so one scan can be put behind
another (`Scans.append`), and what is scanned to its end has these tokens
(`tokens?_of_scans`).

A word is read up to the first character that is no part of it, and a sign as far as no longer sign
begins there (`Token.endsAt`).  Blanks, words and signs one after another are therefore scanned as
they are written, whatever stands behind the last of them (`Scans.fixed`).
-/
namespace BeanBuilder
namespace Java

/-! ## Scans -/

/-- A token of which neither a comment nor an escape is a part. -/
structure Token.Plain (t : Token) : Prop where
  starts : ∃ c w, t.text.toList = c :: w ∧ Text.isBlank c = false ∧ c ≠ '/'
  unescaped : '\\' ∉ t.text.toList

/-- From a text some tokens are read, and a rest is left. -/
inductive Scans : List Char → List Token → List Char → Prop
  | done (cs : List Char) : Scans cs [] cs
  | blank {c : Char} {cs rest : List Char} {ts : List Token} (hc : Text.isBlank c = true)
      (h : Scans cs ts rest) : Scans (c :: cs) ts rest
  | token {t : Token} {cs rest : List Char} {ts : List Token} (hplain : t.Plain)
      (ht : token? (t.text.toList ++ cs) = some (t, cs)) (h : Scans cs ts rest) :
      Scans (t.text.toList ++ cs) (t :: ts) rest

namespace Scans

variable {cs mid rest : List Char} {ts more : List Token}

theorem append (h : Scans cs ts mid) (h' : Scans mid more rest) : Scans cs (ts ++ more) rest := by
  induction h with
  | done => exact h'
  | blank hc _ ih => exact .blank hc (ih h')
  | token hplain ht _ ih => exact .token hplain ht (ih h')

theorem scan? (h : Scans cs ts rest) (hrest : rest = []) {steps : Nat}
    (hsteps : cs.length < steps) : Java.scan? steps cs = some ts := by
  induction h generalizing steps with
  | done cs =>
    subst hrest
    obtain ⟨steps, rfl⟩ := Nat.exists_eq_succ_of_ne_zero (Nat.ne_of_gt hsteps)
    rfl
  | blank hc _ ih =>
    obtain ⟨steps, rfl⟩ := Nat.exists_eq_succ_of_ne_zero (Nat.ne_zero_of_lt hsteps)
    rw [Java.scan?, if_pos hc]
    exact ih hrest (Nat.lt_of_succ_lt_succ hsteps)
  | @token t cs _ ts hplain ht _ ih =>
    obtain ⟨steps, rfl⟩ := Nat.exists_eq_succ_of_ne_zero (Nat.ne_zero_of_lt hsteps)
    obtain ⟨c, w, hw, hblank, hslash⟩ := hplain.starts
    have hcomment : ∀ d, Text.beginsWith ['/', d] (c :: (w ++ cs)) = false := by
      intro d
      simp [Text.beginsWith, Text.afterStart?, hslash.symm]
    rw [hw, List.cons_append] at ht hsteps ⊢
    have hlength : cs.length < steps := by
      simp only [List.length_cons, List.length_append] at hsteps
      omega
    rw [Java.scan?, if_neg (by simp [hblank]), if_neg (by simp [hcomment]),
      if_neg (by simp [hcomment]), ht]
    simp [ih hrest hlength]

theorem unescaped (h : Scans cs ts rest) (hrest : '\\' ∉ rest) : '\\' ∉ cs := by
  induction h with
  | done => exact hrest
  | blank hc _ ih =>
    rw [List.mem_cons, not_or]
    refine ⟨?_, ih hrest⟩
    rintro rfl
    exact absurd hc (by decide)
  | token hplain _ _ ih =>
    rw [List.mem_append, not_or]
    exact ⟨hplain.unescaped, ih hrest⟩

end Scans

/-- A text without escapes stays as it is. -/
theorem unescape?_of_not_mem {cs : List Char} (h : '\\' ∉ cs) (steps : Nat) (kept : List Char) :
    unescape? steps kept cs = some (kept.reverse ++ cs) := by
  induction cs generalizing steps kept with
  | nil => cases steps <;> simp [unescape?]
  | cons c cs ih =>
    rw [List.mem_cons, not_or] at h
    cases steps with
    | zero => rfl
    | succ steps =>
      rw [unescape?, ih h.2, List.reverse_cons, List.append_assoc]
      · rfl
      · exact fun _ hc => absurd hc.symm h.1
      · exact fun _ _ hc => absurd hc.symm h.1

/-- **A source that is scanned to its end has the tokens of the scan.** -/
theorem tokens?_of_scans {source : String} {ts : List Token} (h : Scans source.toList ts []) :
    tokens? source = some ts := by
  rw [tokens?]
  simp only [unescape?_of_not_mem (h.unescaped List.not_mem_nil)]
  exact h.scan? rfl (Nat.lt_succ_self _)

/-! ## Words -/

/-- The code points of the signs of Java and of the digits. -/
def signCodes : List Nat :=
  List.range' 0x21 3 ++ List.range' 0x25 27 ++ List.range' 0x3a 7 ++
    [0x5b, 0x5c, 0x5d, 0x5e, 0x60, 0x7b, 0x7c, 0x7d, 0x7e]

theorem isIdentifierStart_of_mem_signCodes {c : Char} (h : c.toNat ∈ signCodes) :
    isIdentifierStart c = false := by
  have hall : ∀ n ∈ signCodes, Text.covered startRuns n = false := by decide
  exact hall c.toNat h

/-- What begins a word begins neither a sign nor a number. -/
theorem toNat_not_mem_signCodes {c : Char} (h : isIdentifierStart c = true) :
    c.toNat ∉ signCodes := by
  intro hmem
  rw [isIdentifierStart_of_mem_signCodes hmem] at h
  exact absurd h (by decide)

theorem ne_of_isIdentifierStart {c sign : Char} (h : isIdentifierStart c = true)
    (hsign : sign.toNat ∈ signCodes) : c ≠ sign := by
  rintro rfl
  exact toNat_not_mem_signCodes h hsign

theorem isDigit_of_isIdentifierStart {c : Char} (h : isIdentifierStart c = true) :
    c.isDigit = false := by
  by_contra hdigit
  rw [Bool.not_eq_false] at hdigit
  refine toNat_not_mem_signCodes h ?_
  have hrange : 48 ≤ c.toNat ∧ c.toNat ≤ 57 := by
    simpa [Char.isDigit, UInt32.le_iff_toNat_le] using hdigit
  simp only [signCodes, List.mem_append, List.mem_range'_1]
  omega

section Word

variable {word : String} {rest : List Char}

theorem isName_iff :
    isName word = true ↔ ∃ c w, word.toList = c :: w ∧ isIdentifierStart c = true ∧
      ∀ d ∈ w, isIdentifierPart d = true := by
  rw [isName]
  cases word.toList with
  | nil => simp
  | cons c w => simp

/-- A word is read up to the first character that is no part of it. -/
theorem token?_word (hword : isName word = true)
    (hrest : ∀ c ∈ rest.head?, isIdentifierPart c = false) :
    token? (word.toList ++ rest) = some (.ofWord word, rest) := by
  obtain ⟨c, w, hw, hc, hparts⟩ := isName_iff.mp hword
  have hne : ∀ sign : Char, sign.toNat ∈ signCodes → c ≠ sign := fun _ hs =>
    ne_of_isIdentifierStart hc hs
  have hseparator : separators.contains c = false := by
    simp only [separators, List.contains_eq_mem, List.mem_cons, List.not_mem_nil, or_false,
      decide_eq_false_iff_not, not_or]
    exact ⟨hne _ (by decide), hne _ (by decide), hne _ (by decide), hne _ (by decide),
      hne _ (by decide), hne _ (by decide), hne _ (by decide), hne _ (by decide),
      hne _ (by decide)⟩
  have htake : (w ++ rest).takeWhile isIdentifierPart = w := by
    rw [List.takeWhile_append_of_pos hparts]
    cases rest with
    | nil => simp
    | cons d rest => simp [hrest d rfl]
  have hdrop : (w ++ rest).dropWhile isIdentifierPart = rest := by
    rw [List.dropWhile_append_of_pos hparts]
    cases rest with
    | nil => rfl
    | cons d rest => simp [hrest d rfl]
  rw [hw, List.cons_append, token?, if_neg fun h => hne '.' (by decide) h.1,
    if_neg (hne '@' (by decide)), if_neg fun h => hne '.' (by decide) h.1,
    if_neg (by rw [hseparator]; exact Bool.false_ne_true),
    if_neg fun h => h.elim (hne _ (by decide)) (hne _ (by decide)),
    if_neg (by simp [isDigit_of_isIdentifierStart hc]), if_pos hc]
  simp only [htake, hdrop, ← hw, String.ofList_toList]

end Word

/-! ## Signs -/

/-- The tokens that part others. -/
def Token.separator (c : Char) : Token :=
  ⟨.separator, String.ofList [c]⟩

/-- The empty string as a value. -/
def Token.emptyString : Token :=
  ⟨.literal, "\"\""⟩

section Sign

variable {rest : List Char}

theorem token?_separator {c : Char} (hc : c ∈ separators)
    (hpoint : c = '.' → ∀ d ∈ rest.head?, d ≠ '.' ∧ d.isDigit = false) :
    token? (c :: rest) = some (.separator c, rest) := by
  have hpoints : ¬ (c = '.' ∧ Text.beginsWith ['.', '.'] rest = true) := by
    rintro ⟨hc, hb⟩
    cases rest with
    | nil => exact absurd hb (by decide)
    | cons d rest =>
      have hd := (hpoint hc d rfl).1
      simp [Text.beginsWith, Text.afterStart?, hd.symm] at hb
  have hdigit : ¬ (c = '.' ∧ rest.head?.any Char.isDigit = true) := by
    rintro ⟨hc, hd⟩
    cases rest with
    | nil => exact absurd hd (by decide)
    | cons d rest => simp [(hpoint hc d rfl).2] at hd
  have hat : c ≠ '@' := by
    rintro rfl
    exact absurd hc (by decide)
  rw [token?, if_neg hpoints, if_neg hat, if_neg hdigit, if_pos (by simpa using hc)]
  rfl

theorem token?_emptyString : token? ('"' :: '"' :: rest) = some (.emptyString, rest) := rfl

theorem token?_of_operator? {c : Char} {sign : String} (hc : c ∈ ['<', '>', '?', '='])
    (h : operator? (c :: rest) = some sign) :
    token? (c :: rest) = some (⟨.operator, sign⟩, (c :: rest).drop sign.length) := by
  have hne : ∀ d : Char, d ∉ ['<', '>', '?', '='] → c ≠ d := by
    rintro d hd rfl
    exact hd hc
  have hcodes : ∀ d ∈ ['<', '>', '?', '='], d.toNat ∈ signCodes ∧ d ∉ separators ∧
      d.isDigit = false := List.all_iff_forall_prop.mp (by decide +kernel)
  obtain ⟨hcode, hseparator, hdigit⟩ := hcodes c hc
  rw [token?, if_neg fun h => hne '.' (by decide) h.1, if_neg (hne '@' (by decide)),
    if_neg fun h => hne '.' (by decide) h.1, if_neg (by simpa using hseparator),
    if_neg fun h => h.elim (hne _ (by decide)) (hne _ (by decide)),
    if_neg (by simp [hdigit]),
    if_neg (by simp [isIdentifierStart_of_mem_signCodes hcode]), h]
  rfl

/-- Where no longer operator can begin, the first sign alone is one. -/
theorem operator?_single {c : Char} (hc : c ∈ ['<', '>', '?', '='])
    (hend : ∀ d ∈ rest.head?, d ≠ c ∧ d ≠ '=') :
    operator? (c :: rest) = some (String.ofList [c]) := by
  simp only [List.mem_cons, List.not_mem_nil, or_false] at hc
  cases rest with
  | nil => rcases hc with rfl | rfl | rfl | rfl <;> rfl
  | cons d rest =>
    obtain ⟨h₁, h₂⟩ := hend d rfl
    rcases hc with rfl | rfl | rfl | rfl <;>
      simp [operator?, operators, Text.beginsWith, Text.afterStart?, h₁.symm, h₂.symm]

/-- No operator begins with a question mark and goes on. -/
theorem operator?_question (rest : List Char) : operator? ('?' :: rest) = some "?" := by
  simp [operator?, operators, Text.beginsWith, Text.afterStart?]

/-- A closing angle bracket is read alone when no sign of equality stands behind it and the closing
brackets that follow. -/
theorem operator?_close (hend : ∀ d ∈ (rest.dropWhile (· = '>')).head?, d ≠ '=') :
    operator? ('>' :: rest) = some ">" := by
  have hequals : ∀ n, Text.beginsWith (List.replicate n '>' ++ ['=']) rest = false := by
    intro n
    by_contra h
    rw [Bool.not_eq_false, Text.beginsWith, Option.isSome_iff_exists] at h
    obtain ⟨more, hmore⟩ := h
    rw [Text.eq_append_of_afterStart? hmore, List.append_assoc,
      List.dropWhile_append_of_pos (by simp)] at hend
    exact hend '=' rfl rfl
  have h₀ := hequals 0
  have h₁ := hequals 1
  have h₂ := hequals 2
  simp [Text.beginsWith] at h₀ h₁ h₂
  simp [operator?, operators, Text.beginsWith, Text.afterStart?, h₀, h₁, h₂]

end Sign

/-! ## Scans of words and signs -/

namespace Scans

variable {rest : List Char}

/-- A token that begins with a sign. -/
theorem plain_of_sign {kind : TokenKind} {c : Char} {w : List Char}
    (hblank : Text.isBlank c = false)
    (hslash : c ≠ '/') (hescape : '\\' ∉ c :: w) :
    Token.Plain ⟨kind, String.ofList (c :: w)⟩ where
  starts := ⟨c, w, String.toList_ofList, hblank, hslash⟩
  unescaped := by rwa [String.toList_ofList]

theorem word {word : String} (hword : isName word = true)
    (hrest : ∀ c ∈ rest.head?, isIdentifierPart c = false) :
    Scans (word.toList ++ rest) [.ofWord word] rest := by
  obtain ⟨c, w, hw, hc, hparts⟩ := isName_iff.mp hword
  have hpart : isIdentifierPart c = true := by rw [isIdentifierPart, hc, Bool.true_or]
  refine .token (t := .ofWord word) ⟨⟨c, w, hw, ?_, ?_⟩, ?_⟩ (token?_word hword hrest) (.done rest)
  · exact isBlank_of_isIdentifierPart hpart
  · exact ne_of_isIdentifierStart hc (by decide)
  · intro hmem
    rw [Token.ofWord, hw] at hmem
    have hescape : isIdentifierPart '\\' = true := by
      rcases List.mem_cons.mp hmem with h | h
      · rw [h, hpart]
      · exact hparts _ h
    exact absurd hescape (by decide)

/-- A sign that is read as a token of its own. -/
theorem sign {kind : TokenKind} {c : Char} (hc : c ∈ separators ++ ['<', '>', '?', '='])
    (htoken : token? (c :: rest) = some (⟨kind, String.ofList [c]⟩, rest)) :
    Scans (c :: rest) [⟨kind, String.ofList [c]⟩] rest := by
  have hall : ∀ c ∈ separators ++ ['<', '>', '?', '='],
      Text.isBlank c = false ∧ c ≠ '/' ∧ '\\' ∉ [c] := List.all_iff_forall_prop.mp (by decide)
  obtain ⟨hblank, hslash, hescape⟩ := hall c hc
  have hscan := Scans.token (t := ⟨kind, String.ofList [c]⟩)
    (plain_of_sign hblank hslash hescape) (by rw [String.toList_ofList]; exact htoken) (.done rest)
  rwa [String.toList_ofList] at hscan

theorem separator {c : Char} (hc : c ∈ separators)
    (hpoint : c = '.' → ∀ d ∈ rest.head?, d ≠ '.' ∧ d.isDigit = false) :
    Scans (c :: rest) [.separator c] rest :=
  sign (List.mem_append_left _ hc) (token?_separator hc hpoint)

theorem operator {c : Char} (hc : c ∈ ['<', '>', '?', '='])
    (h : operator? (c :: rest) = some (String.ofList [c])) :
    Scans (c :: rest) [⟨.operator, String.ofList [c]⟩] rest :=
  sign (List.mem_append_right separators hc) (by simpa using token?_of_operator? hc h)

theorem emptyString : Scans ('"' :: '"' :: rest) [.emptyString] rest :=
  .token (t := .emptyString) (plain_of_sign (by decide) (by decide) (by decide))
    token?_emptyString (.done rest)

end Scans

/-! ## Fixed texts -/

/-- A piece of a text as it is written. -/
inductive Piece where
  | blank (c : Char)
  | word (text : String)
  | separator (c : Char)
  | operator (c : Char)
  | emptyString

namespace Piece

/-- The characters of a piece. -/
def chars : Piece → List Char
  | blank c | separator c | operator c => [c]
  | word text => text.toList
  | emptyString => ['"', '"']

/-- The token of a piece, if it is no blank. -/
def token? : Piece → Option Token
  | blank _ => none
  | word text => some (.ofWord text)
  | separator c => some (.separator c)
  | operator c => some ⟨.operator, String.ofList [c]⟩
  | emptyString => some .emptyString

/-- Whether a piece is what it is said to be. -/
def isProper : Piece → Bool
  | blank c => Text.isBlank c
  | word text => isName text
  | separator c => separators.contains c
  | operator c => ['<', '>', '?', '='].contains c
  | emptyString => true

/-- Whether a piece ends in front of a character. -/
def endsAt : Piece → Char → Bool
  | word _, d => !isIdentifierPart d
  | separator c, d => c != '.' || (d != '.' && !d.isDigit)
  | operator c, d => d != c && d != '='
  | _, _ => true

/-- Whether a piece ends whatever stands behind it. -/
def endsAnywhere : Piece → Bool
  | blank _ | emptyString => true
  | separator c => c != '.'
  | _ => false

/-- The text of some pieces. -/
def spell (ps : List Piece) : List Char :=
  ps.flatMap chars

/-- The tokens of some pieces. -/
def tokens (ps : List Piece) : List Token :=
  ps.filterMap token?

/-- Whether every piece ends where the next one begins, and the last one anywhere. -/
def arePieces : List Piece → Bool
  | [] => true
  | p :: ps => p.isProper && (spell ps).head?.elim p.endsAnywhere p.endsAt && arePieces ps

theorem endsAt_of_endsAnywhere {p : Piece} (h : p.endsAnywhere = true) (d : Char) :
    p.endsAt d = true := by
  cases p with
  | separator c => exact Bool.or_eq_true_iff.mpr (Or.inl h)
  | blank c => rfl
  | emptyString => rfl
  | word text => exact nomatch h
  | operator c => exact nomatch h

theorem endsAt_of_mem_head? {p : Piece} {ps : List Piece}
    (h : (spell ps).head?.elim p.endsAnywhere p.endsAt = true) (rest : List Char) :
    ∀ d ∈ (spell ps ++ rest).head?, p.endsAt d = true := by
  intro d hd
  cases hs : spell ps with
  | nil =>
    rw [hs] at h
    exact endsAt_of_endsAnywhere h d
  | cons c cs =>
    rw [hs] at h hd
    obtain rfl := Option.some.inj hd
    exact h

end Piece

/-- **Pieces are scanned as they are written.** -/
theorem Scans.pieces {ps : List Piece} (h : Piece.arePieces ps = true) (rest : List Char) :
    Scans (Piece.spell ps ++ rest) (Piece.tokens ps) rest := by
  induction ps with
  | nil => exact .done rest
  | cons p ps ih =>
    rw [Piece.arePieces, Bool.and_eq_true, Bool.and_eq_true] at h
    obtain ⟨⟨hproper, hends⟩, hps⟩ := h
    have hnext := Piece.endsAt_of_mem_head? hends rest
    have hrest := ih hps
    have hchars : Piece.spell (p :: ps) ++ rest = p.chars ++ (Piece.spell ps ++ rest) := by
      rw [Piece.spell, List.flatMap_cons, List.append_assoc]
      rfl
    rw [hchars]
    cases p with
    | blank c => exact .blank hproper hrest
    | word text =>
      refine (Scans.word hproper fun d hd => ?_).append hrest
      simpa [Piece.endsAt] using hnext d hd
    | separator c =>
      refine (Scans.separator (by simpa [Piece.isProper] using hproper) ?_).append hrest
      intro hpoint d hd
      simpa [Piece.endsAt, hpoint] using hnext d hd
    | operator c =>
      have hc : c ∈ ['<', '>', '?', '='] := by simpa [Piece.isProper] using hproper
      refine (Scans.operator hc (operator?_single hc fun d hd => ?_)).append hrest
      simpa [Piece.endsAt] using hnext d hd
    | emptyString => exact Scans.emptyString.append hrest

/-- A text that is spelled in pieces is scanned as they are written. -/
theorem Scans.fixed {text : String} (ps : List Piece)
    (h : (Piece.spell ps = text.toList && Piece.arePieces ps) = true) (rest : List Char) :
    Scans (text.toList ++ rest) (Piece.tokens ps) rest := by
  rw [Bool.and_eq_true, decide_eq_true_eq] at h
  exact h.1 ▸ Scans.pieces h.2 rest

end Java
end BeanBuilder
