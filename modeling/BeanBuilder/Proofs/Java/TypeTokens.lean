import BeanBuilder.Java.Type
import BeanBuilder.Proofs.Java.Scanning

/-! # Types that are read back

A type whose names are identifiers, and whose arguments are types that values refer to, is
`Readable`: these are the types that a reader finds in a source.  Written without resolving its
names, such a type is scanned into its tokens (`JavaType.scans_render`), and reading these tokens
gives the same type again (`readType?_tokens`), whatever stands behind it, as long as that does not
go on with the type.
-/
namespace BeanBuilder
namespace Java

/-! ## Types whose names are identifiers -/

/-- A word that names something: neither a keyword nor a value. -/
def IsIdentifier (s : String) : Prop :=
  isName s = true ∧ wordKind s = .identifier

instance (s : String) : Decidable (IsIdentifier s) :=
  inferInstanceAs (Decidable (_ ∧ _))

/-- Values refer to arrays and named types, not to single values of basic types. -/
def JavaType.IsReference : JavaType → Prop
  | .basic _ dimensions => dimensions ≠ 0
  | .named _ _ => True

mutual

/-- A type as a reader finds it in a source. -/
def JavaType.Readable : JavaType → Prop
  | .basic name _ => wordKind name = .basicType
  | .named path _ => path.Readable

/-- A path of identifiers with readable arguments. -/
def TypePath.Readable : TypePath → Prop
  | .last name arguments => IsIdentifier name ∧ ArgumentsReadable arguments
  | .outer name arguments inner =>
    IsIdentifier name ∧ ArgumentsReadable arguments ∧ inner.Readable

/-- Readable arguments. -/
def ArgumentsReadable : List TypeArgument → Prop
  | [] => True
  | a :: rest => a.Readable ∧ ArgumentsReadable rest

/-- An argument that is readable and a type that values refer to. -/
def TypeArgument.Readable : TypeArgument → Prop
  | .any => True
  | .exact type => type.IsReference ∧ type.Readable
  | .upper bound => bound.IsReference ∧ bound.Readable
  | .lower bound => bound.IsReference ∧ bound.Readable

end

theorem mem_basicTypeWords {name : String} (h : wordKind name = .basicType) :
    name ∈ basicTypeWords := by
  by_contra hnot
  have hcontains : basicTypeWords.contains name = false := by simpa using hnot
  rw [wordKind, if_neg (by rw [hcontains]; exact Bool.false_ne_true)] at h
  split_ifs at h

/-- The names of the basic types are words. -/
theorem isName_of_wordKind_basicType {name : String} (h : wordKind name = .basicType) :
    isName name = true := by
  have hall : ∀ word ∈ basicTypeWords, isName word = true := by decide
  exact hall name (mem_basicTypeWords h)

/-! ## The tokens of a type -/

/-- The tokens of array dimensions. -/
def dimensionTokens : Nat → List Token
  | 0 => []
  | n + 1 => .separator '[' :: .separator ']' :: dimensionTokens n

mutual

/-- The tokens of a type. -/
def JavaType.tokens : JavaType → List Token
  | .basic name dimensions => .ofWord name :: dimensionTokens dimensions
  | .named path dimensions => path.tokens ++ dimensionTokens dimensions

/-- The tokens of a path. -/
def TypePath.tokens : TypePath → List Token
  | .last name arguments => .ofWord name :: argumentsTokens arguments
  | .outer name arguments inner =>
    .ofWord name :: (argumentsTokens arguments ++ .separator '.' :: inner.tokens)

/-- The tokens of arguments in angle brackets. -/
def argumentsTokens : List TypeArgument → List Token
  | [] => []
  | a :: rest => ⟨.operator, "<"⟩ :: (a.tokens ++ (furtherTokens rest ++ [⟨.operator, ">"⟩]))

/-- The tokens of further arguments. -/
def furtherTokens : List TypeArgument → List Token
  | [] => []
  | a :: rest => .separator ',' :: (a.tokens ++ furtherTokens rest)

/-- The tokens of an argument. -/
def TypeArgument.tokens : TypeArgument → List Token
  | .any => [⟨.operator, "?"⟩]
  | .exact type => type.tokens
  | .upper bound => ⟨.operator, "?"⟩ :: .ofWord "extends" :: bound.tokens
  | .lower bound => ⟨.operator, "?"⟩ :: .ofWord "super" :: bound.tokens

end

/-! ## Scanning types -/

/-- A text that does not go on with a word or with an operator in front of it. -/
structure TypeEnds (rest : List Char) : Prop where
  part : ∀ c ∈ rest.head?, isIdentifierPart c = false
  equals : ∀ c ∈ (rest.dropWhile (· = '>')).head?, c ≠ '='

namespace TypeEnds

variable {c : Char} {rest : List Char}

/-- Any sign but a closing bracket and a sign of equality ends a type. -/
theorem of_sign (hpart : isIdentifierPart c = false) (hclose : c ≠ '>') (hequals : c ≠ '=') :
    TypeEnds (c :: rest) where
  part d hd := Option.some.inj hd ▸ hpart
  equals d hd := by
    rw [List.dropWhile_cons_of_neg (by simpa using hclose)] at hd
    exact Option.some.inj hd ▸ hequals

theorem comma : TypeEnds (',' :: rest) :=
  of_sign (by decide) (by decide) (by decide)

theorem point : TypeEnds ('.' :: rest) :=
  of_sign (by decide) (by decide) (by decide)

theorem bracket : TypeEnds ('[' :: rest) :=
  of_sign (by decide) (by decide) (by decide)

/-- A closing bracket ends a type where what follows does. -/
theorem close (h : TypeEnds rest) : TypeEnds ('>' :: rest) where
  part d hd := Option.some.inj hd ▸ by decide
  equals := h.equals

end TypeEnds

theorem scans_dimensionText {rest : List Char} (n : Nat) :
    Scans ((dimensionText n).toList ++ rest) (dimensionTokens n) rest := by
  induction n with
  | zero => exact .done rest
  | succ n ih =>
    rw [dimensionText, Text.repeated, String.toList_append, List.append_assoc]
    exact (Scans.fixed [.separator '[', .separator ']'] (by decide) _).append ih

/-- The dimensions end the type in front of them. -/
theorem TypeEnds.dimensionText {rest : List Char} (h : TypeEnds rest) (n : Nat) :
    TypeEnds ((Java.dimensionText n).toList ++ rest) := by
  cases n with
  | zero => exact h
  | succ n =>
    rw [Java.dimensionText, Text.repeated, String.toList_append, List.append_assoc]
    exact .bracket

/-- The text of a name begins a word. -/
theorem isIdentifierStart_of_head? {name : String} (h : isName name = true) (w : List Char) :
    ∀ c ∈ (name.toList ++ w).head?, isIdentifierStart c = true := by
  obtain ⟨c, v, hv, hc, -⟩ := isName_iff.mp h
  intro d hd
  rw [hv] at hd
  exact Option.some.inj hd ▸ hc

theorem TypePath.isIdentifierStart_head?_render {path : TypePath} (h : path.Readable)
    (w : List Char) :
    ∀ c ∈ ((path.render id id).toList ++ w).head?, isIdentifierStart c = true := by
  cases path with
  | last name arguments =>
    rw [render, String.toList_append, List.append_assoc]
    exact isIdentifierStart_of_head? h.1.1 _
  | outer name arguments inner =>
    rw [render]
    simp only [String.toList_append, List.append_assoc]
    exact isIdentifierStart_of_head? h.1.1 _

theorem JavaType.isIdentifierStart_head?_render {type : JavaType} (h : type.Readable)
    (w : List Char) : ∀ c ∈ ((type.render id).toList ++ w).head?, isIdentifierStart c = true := by
  cases type with
  | basic name n =>
    rw [render, String.toList_append, List.append_assoc]
    exact isIdentifierStart_of_head? (isName_of_wordKind_basicType h) _
  | named path n =>
    rw [render, String.toList_append, List.append_assoc]
    exact path.isIdentifierStart_head?_render h _

/-- An argument begins with a word or a question mark. -/
theorem TypeArgument.ne_of_head?_render {a : TypeArgument} (h : a.Readable) (w : List Char) :
    ∀ c ∈ ((a.render id).toList ++ w).head?, c ≠ '<' ∧ c ≠ '=' := by
  cases a with
  | exact type =>
    intro c hc
    have hstart := type.isIdentifierStart_head?_render h.2 w c hc
    exact ⟨ne_of_isIdentifierStart hstart (by decide), ne_of_isIdentifierStart hstart (by decide)⟩
  | any =>
    intro c hc
    obtain rfl : '?' = c := Option.some.inj hc
    decide
  | upper bound =>
    intro c hc
    rw [render, String.toList_append, List.append_assoc] at hc
    obtain rfl : '?' = c := Option.some.inj hc
    decide
  | lower bound =>
    intro c hc
    rw [render, String.toList_append, List.append_assoc] at hc
    obtain rfl : '?' = c := Option.some.inj hc
    decide

theorem typeEnds_furtherText {rest : List Char} (h : TypeEnds rest)
    (arguments : List TypeArgument) : TypeEnds ((furtherText id arguments).toList ++ rest) := by
  cases arguments with
  | nil => exact h
  | cons a more =>
    rw [furtherText]
    simp only [String.toList_append, List.append_assoc]
    exact .comma

theorem typeEnds_argumentsText {rest : List Char} (h : TypeEnds rest)
    (arguments : List TypeArgument) : TypeEnds ((argumentsText id arguments).toList ++ rest) := by
  cases arguments with
  | nil => exact h
  | cons a more =>
    rw [argumentsText]
    simp only [String.toList_append, List.append_assoc]
    exact TypeEnds.of_sign (by decide) (by decide) (by decide)

mutual

/-- **A readable type is scanned into its tokens.** -/
theorem JavaType.scans_render : ∀ (type : JavaType) {rest : List Char}, type.Readable →
    TypeEnds rest → Scans ((type.render id).toList ++ rest) type.tokens rest
  | .basic name n, rest, hr, hends => by
    rw [JavaType.render, String.toList_append, List.append_assoc]
    exact (Scans.word (isName_of_wordKind_basicType hr) (hends.dimensionText n).part).append
      (scans_dimensionText n)
  | .named path n, rest, hr, hends => by
    rw [JavaType.render, String.toList_append, List.append_assoc]
    exact (path.scans_render hr (hends.dimensionText n)).append (scans_dimensionText n)

theorem TypePath.scans_render : ∀ (path : TypePath) {rest : List Char}, path.Readable →
    TypeEnds rest → Scans ((path.render id id).toList ++ rest) path.tokens rest
  | .last name arguments, rest, hr, hends => by
    rw [TypePath.render, String.toList_append, List.append_assoc]
    exact (Scans.word hr.1.1 (typeEnds_argumentsText hends arguments).part).append
      (scans_argumentsText arguments hr.2 hends)
  | .outer name arguments inner, rest, hr, hends => by
    rw [TypePath.render]
    simp only [String.toList_append, List.append_assoc]
    refine (Scans.word hr.1.1 (typeEnds_argumentsText .point arguments).part).append
      ((scans_argumentsText arguments hr.2.1 .point).append
        ((Scans.separator (by decide) fun _ d hd => ?_).append (inner.scans_render hr.2.2 hends)))
    have hstart := inner.isIdentifierStart_head?_render hr.2.2 rest d hd
    exact ⟨ne_of_isIdentifierStart hstart (by decide), isDigit_of_isIdentifierStart hstart⟩

theorem scans_argumentsText : ∀ (arguments : List TypeArgument) {rest : List Char},
    ArgumentsReadable arguments → TypeEnds rest →
      Scans ((argumentsText id arguments).toList ++ rest) (argumentsTokens arguments) rest
  | [], rest, _, _ => .done rest
  | a :: more, rest, hr, hends => by
    rw [argumentsText]
    simp only [String.toList_append, List.append_assoc]
    exact (Scans.operator (by decide) (operator?_single (by decide)
      (a.ne_of_head?_render hr.1 _))).append
        ((a.scans_render hr.1 (typeEnds_furtherText hends.close more)).append
          ((scans_furtherText more hr.2 hends.close).append
            (Scans.operator (by decide) (operator?_close hends.equals))))

theorem scans_furtherText : ∀ (arguments : List TypeArgument) {rest : List Char},
    ArgumentsReadable arguments → TypeEnds rest →
      Scans ((furtherText id arguments).toList ++ rest) (furtherTokens arguments) rest
  | [], rest, _, _ => .done rest
  | a :: more, rest, hr, hends => by
    rw [furtherText]
    simp only [String.toList_append, List.append_assoc]
    exact (Scans.fixed [.separator ',', .blank ' '] (by decide) _).append
      ((a.scans_render hr.1 (typeEnds_furtherText hends more)).append
        (scans_furtherText more hr.2 hends))

theorem TypeArgument.scans_render : ∀ (a : TypeArgument) {rest : List Char}, a.Readable →
    TypeEnds rest → Scans ((a.render id).toList ++ rest) a.tokens rest
  | .any, rest, _, _ => Scans.operator (by decide) (operator?_question rest)
  | .exact type, rest, hr, hends => type.scans_render hr.2 hends
  | .upper bound, rest, hr, hends => by
    rw [TypeArgument.render, String.toList_append, List.append_assoc]
    exact (Scans.fixed [.operator '?', .blank ' ', .word "extends", .blank ' '] (by decide)
      _).append (bound.scans_render hr.2 hends)
  | .lower bound, rest, hr, hends => by
    rw [TypeArgument.render, String.toList_append, List.append_assoc]
    exact (Scans.fixed [.operator '?', .blank ' ', .word "super", .blank ' '] (by decide)
      _).append (bound.scans_render hr.2 hends)

end

/-! ## Reading types back -/

section Tokens

variable {t : Token} {ts : List Token} {text word : String}

theorem textOf?_ofWord {kind : TokenKind} (h : wordKind word = kind) :
    textOf? kind (.ofWord word :: ts) = some (word, ts) :=
  if_pos h

theorem textOf?_eq_none {kind : TokenKind} (h : t.kind ≠ kind) : textOf? kind (t :: ts) = none :=
  if_neg h

theorem afterText?_cons (h : t.text = text) : afterText? text (t :: ts) = some ts :=
  if_pos h

theorem afterText?_mk (kind : TokenKind) : afterText? text (⟨kind, text⟩ :: ts) = some ts :=
  if_pos rfl

theorem afterText?_ofWord : afterText? word (.ofWord word :: ts) = some ts :=
  if_pos rfl

theorem afterText?_eq_none (h : ∀ t ∈ ts.head?, t.text ≠ text) : afterText? text ts = none := by
  cases ts with
  | nil => rfl
  | cons t ts => exact if_neg (h t rfl)

theorem ne_of_isName {sign : String} (h : isName word = true) (hsign : isName sign = false) :
    word ≠ sign := by
  rintro rfl
  rw [h] at hsign
  exact absurd hsign (by decide)

end Tokens

/-- The first token, if there is one, has none of some texts. -/
def Avoids (words : List String) (ts : List Token) : Prop :=
  ∀ t ∈ ts.head?, t.text ∉ words

namespace Avoids

variable {words : List String} {ts : List Token}

theorem ne (h : Avoids words ts) {word : String} (hword : word ∈ words) :
    ∀ t ∈ ts.head?, t.text ≠ word :=
  fun t ht heq => h t ht (heq ▸ hword)

theorem cons {t : Token} (h : t.text ∉ words) : Avoids words (t :: ts) :=
  fun _ ht => Option.some.inj ht ▸ h

end Avoids

/-- The texts that go on with a type or with a wildcard in front of them. -/
def typeContinuations : List String :=
  ["<", ".", "[", "extends", "super"]

/-- Tokens that do not go on with a type in front of them. -/
def NoMoreType (ts : List Token) : Prop :=
  Avoids typeContinuations ts

theorem readDimensions_tokens {ts : List Token} (h : ∀ t ∈ ts.head?, t.text ≠ "[") (n : Nat) :
    readDimensions (dimensionTokens n ++ ts) = (n, ts) := by
  induction n with
  | zero =>
    rw [dimensionTokens, List.nil_append]
    unfold readDimensions
    split
    · rename_i a b rest
      rw [if_neg fun hab => h a rfl hab.1]
    · rfl
  | succ n ih =>
    rw [dimensionTokens, List.cons_append, List.cons_append, readDimensions,
      if_pos ⟨by decide, by decide⟩, ih]

/-- A path is not gone on with by its dimensions. -/
theorem ne_of_head?_dimensionTokens {ts : List Token} (h : NoMoreType ts) (n : Nat) :
    ∀ t ∈ (dimensionTokens n ++ ts).head?, t.text ≠ "<" ∧ t.text ≠ "." := by
  cases n with
  | zero => exact fun t ht => ⟨Avoids.ne h (by decide) t ht, Avoids.ne h (by decide) t ht⟩
  | succ n =>
    intro t ht
    obtain rfl := Option.some.inj ht
    decide

/-- The first token of a readable type is a word. -/
theorem JavaType.isName_head?_tokens {type : JavaType} (h : type.Readable) (ts : List Token) :
    ∀ t ∈ (type.tokens ++ ts).head?, isName t.text = true := by
  cases type with
  | basic name n => exact fun t ht => Option.some.inj ht ▸ isName_of_wordKind_basicType h
  | named path n =>
    cases path with
    | last name arguments => exact fun t ht => Option.some.inj ht ▸ h.1.1
    | outer name arguments inner => exact fun t ht => Option.some.inj ht ▸ h.1.1

/-- A readable path does not begin with a basic type. -/
theorem TypePath.textOf?_basicType_tokens {path : TypePath} (h : path.Readable)
    (ts : List Token) : textOf? .basicType (path.tokens ++ ts) = none := by
  have hkind : ∀ {name : String}, IsIdentifier name → (Token.ofWord name).kind ≠ .basicType := by
    intro name hname hbasic
    exact absurd (hname.2.symm.trans hbasic) (by decide)
  cases path with
  | last name arguments => exact textOf?_eq_none (hkind h.1)
  | outer name arguments inner => exact textOf?_eq_none (hkind h.1)

theorem noMoreType_furtherTokens (arguments : List TypeArgument) (ts : List Token) :
    NoMoreType (furtherTokens arguments ++ ⟨.operator, ">"⟩ :: ts) := by
  cases arguments with
  | nil => exact Avoids.cons (by decide)
  | cons a more => exact Avoids.cons (by decide)

/-- The arguments of a segment, if it has any. -/
def readSegment? (calls : Nat) (ts : List Token) : Option (List TypeArgument × List Token) :=
  match afterText? "<" ts with
  | some ts => readArguments? calls ts
  | none => pure ([], ts)

/-- A path is read segment by segment. -/
theorem readPath?_succ {name : String} (hname : IsIdentifier name) (calls : Nat)
    (ts : List Token) :
    readPath? (calls + 1) (.ofWord name :: ts) =
      (readSegment? calls ts).bind fun r =>
        match afterText? "." r.2 with
        | some ts => (readPath? calls ts).bind fun q => some (TypePath.outer name r.1 q.1, q.2)
        | none => some (TypePath.last name r.1, r.2) := by
  rw [readPath?, textOf?_ofWord hname.2, readSegment?]
  cases h : afterText? "<" ts <;> simp only [h, Option.bind_eq_bind, Option.bind_some] <;> rfl

mutual

theorem TypePath.readPath?_tokens : ∀ (path : TypePath) {k : Nat} {ts : List Token},
    path.Readable → 3 * path.tokens.length ≤ k →
      (∀ t ∈ ts.head?, t.text ≠ "<" ∧ t.text ≠ ".") →
        readPath? k (path.tokens ++ ts) = some (path, ts)
  | .last name arguments, 0, ts, _, hk, _ => by
    rw [TypePath.tokens, List.length_cons] at hk
    omega
  | .outer name arguments inner, 0, ts, _, hk, _ => by
    rw [TypePath.tokens, List.length_cons] at hk
    omega
  | .last name arguments, k + 1, ts, hr, hk, hends => by
    rw [TypePath.tokens, List.length_cons] at hk
    have hsegment := readSegment?_tokens arguments (k := k) hr.2 (by omega)
      fun t ht => (hends t ht).1
    rw [TypePath.tokens, List.cons_append, readPath?_succ hr.1, hsegment, Option.bind_some,
      afterText?_eq_none fun t ht => (hends t ht).2]
  | .outer name arguments inner, k + 1, ts, hr, hk, hends => by
    rw [TypePath.tokens, List.length_cons, List.length_append, List.length_cons] at hk
    have hsegment : readSegment? k (argumentsTokens arguments ++
        .separator '.' :: (inner.tokens ++ ts)) =
          some (arguments, .separator '.' :: (inner.tokens ++ ts)) :=
      readSegment?_tokens arguments hr.2.1 (by omega) (by
        intro t ht
        obtain rfl := Option.some.inj ht
        decide)
    rw [TypePath.tokens, List.cons_append, List.append_assoc, List.cons_append,
      readPath?_succ hr.1, hsegment, Option.bind_some, afterText?_cons (by decide)]
    simp only [inner.readPath?_tokens (k := k) hr.2.2 (by omega) hends, Option.bind_some]
termination_by path => sizeOf path

theorem readSegment?_tokens : ∀ (arguments : List TypeArgument) {k : Nat} {ts : List Token},
    ArgumentsReadable arguments → 3 * (argumentsTokens arguments).length ≤ k →
      (∀ t ∈ ts.head?, t.text ≠ "<") →
        readSegment? k (argumentsTokens arguments ++ ts) = some (arguments, ts)
  | [], k, ts, _, _, hends => by
    rw [readSegment?, argumentsTokens, List.nil_append, afterText?_eq_none hends]
    rfl
  | a :: more, k, ts, hr, hk, _ => by
    have hread : readArguments? k (a.tokens ++ (furtherTokens more ++ ⟨.operator, ">"⟩ :: ts)) =
        some (a :: more, ts) := readArguments?_tokens a more hr.1 hr.2 hk
    rw [readSegment?, argumentsTokens, List.cons_append, afterText?_mk]
    simpa only [List.append_assoc, List.singleton_append] using hread
termination_by arguments => sizeOf arguments

theorem readArguments?_tokens : ∀ (a : TypeArgument) (more : List TypeArgument) {k : Nat}
    {ts : List Token}, a.Readable → ArgumentsReadable more →
      3 * (argumentsTokens (a :: more)).length ≤ k →
        readArguments? k (a.tokens ++ (furtherTokens more ++ ⟨.operator, ">"⟩ :: ts)) =
          some (a :: more, ts)
  | a, more, 0, ts, _, _, hk => by
    rw [argumentsTokens, List.length_cons] at hk
    omega
  | a, [], k + 1, ts, hr, _, hk => by
    simp only [argumentsTokens, furtherTokens, List.length_cons, List.length_append,
      List.length_nil] at hk
    rw [readArguments?, a.readArgument?_tokens hr (by omega) (noMoreType_furtherTokens [] ts)]
    rfl
  | a, b :: more, k + 1, ts, hr, hmore, hk => by
    simp only [argumentsTokens, furtherTokens, List.length_cons, List.length_append,
      List.length_nil] at hk
    have hrest : readArguments? k (b.tokens ++ (furtherTokens more ++ ⟨.operator, ">"⟩ :: ts)) =
        some (b :: more, ts) := readArguments?_tokens b more hmore.1 hmore.2 (by
      simp only [argumentsTokens, List.length_cons, List.length_append, List.length_nil]
      omega)
    rw [readArguments?, a.readArgument?_tokens hr (by omega)
      (noMoreType_furtherTokens (b :: more) ts)]
    have hclose : ∀ w, afterText? ">" (.separator ',' :: w) = none := fun w =>
      afterText?_eq_none fun t ht => Option.some.inj ht ▸ by decide
    have hcomma : ∀ w, afterText? "," (.separator ',' :: w) = some w := fun w =>
      afterText?_cons (by decide)
    rw [furtherTokens, List.cons_append, List.append_assoc]
    simp only [Option.bind_eq_bind, Option.bind_some, hclose, hcomma, hrest]
    rfl
termination_by a more => sizeOf a + sizeOf more

theorem TypeArgument.readArgument?_tokens : ∀ (a : TypeArgument) {k : Nat} {ts : List Token},
    a.Readable → 3 * a.tokens.length + 2 ≤ k → NoMoreType ts →
      readArgument? k (a.tokens ++ ts) = some (a, ts)
  | a, 0, ts, _, hk, _ => by omega
  | .any, k + 1, ts, _, _, hends => by
    rw [TypeArgument.tokens, List.singleton_append, readArgument?, afterText?_mk]
    simp only [afterText?_eq_none (Avoids.ne hends (by decide : "extends" ∈ typeContinuations)),
      afterText?_eq_none (Avoids.ne hends (by decide : "super" ∈ typeContinuations))]
  | .exact type, k + 1, ts, hr, hk, hends => by
    have hmark : afterText? "?" (type.tokens ++ ts) = none := afterText?_eq_none fun t ht =>
      ne_of_isName (type.isName_head?_tokens hr.2 ts t ht) (by decide)
    rw [TypeArgument.tokens] at hk
    rw [TypeArgument.tokens, readArgument?, hmark]
    simp only
    rw [type.readReference?_tokens hr.1 hr.2 (by omega) hends]
    rfl
  | .upper bound, k + 1, ts, hr, hk, hends => by
    rw [TypeArgument.tokens, List.length_cons, List.length_cons] at hk
    rw [TypeArgument.tokens, List.cons_append, readArgument?, afterText?_mk, List.cons_append]
    simp only [afterText?_ofWord]
    rw [bound.readReference?_tokens hr.1 hr.2 (by omega) hends]
    rfl
  | .lower bound, k + 1, ts, hr, hk, hends => by
    rw [TypeArgument.tokens, List.length_cons, List.length_cons] at hk
    have hextends : afterText? "extends" (.ofWord "super" :: (bound.tokens ++ ts)) = none :=
      afterText?_eq_none fun t ht => Option.some.inj ht ▸ by decide
    rw [TypeArgument.tokens, List.cons_append, readArgument?, afterText?_mk, List.cons_append]
    simp only [afterText?_ofWord, hextends]
    rw [bound.readReference?_tokens hr.1 hr.2 (by omega) hends]
    rfl
termination_by a => sizeOf a

theorem JavaType.readReference?_tokens : ∀ (type : JavaType) {k : Nat} {ts : List Token},
    type.IsReference → type.Readable → 3 * type.tokens.length + 1 ≤ k → NoMoreType ts →
      readReference? k (type.tokens ++ ts) = some (type, ts)
  | type, 0, ts, _, _, hk, _ => by omega
  | .basic name n, k + 1, ts, href, hr, hk, hends => by
    rw [JavaType.tokens, List.cons_append, readReference?, textOf?_ofWord hr]
    simp only [readDimensions_tokens (Avoids.ne hends (by decide)) n]
    exact if_neg href
  | .named path n, k + 1, ts, _, hr, hk, hends => by
    rw [JavaType.tokens, List.length_append] at hk
    have hpath := path.readPath?_tokens (k := k) hr (by omega)
      (ne_of_head?_dimensionTokens hends n)
    have hkind : textOf? .basicType (path.tokens ++ (dimensionTokens n ++ ts)) = none :=
      path.textOf?_basicType_tokens hr _
    rw [JavaType.tokens, List.append_assoc, readReference?, hkind]
    simp only [hpath, Option.bind_eq_bind, Option.bind_some,
      readDimensions_tokens (Avoids.ne hends (by decide)) n]
    rfl
termination_by type => sizeOf type

end

/-- **Reading the tokens of a readable type gives the type again.** -/
theorem readType?_tokens {type : JavaType} {ts : List Token} (hr : type.Readable)
    (hends : NoMoreType ts) : readType? (type.tokens ++ ts) = some (type, ts) := by
  cases type with
  | basic name n =>
    rw [JavaType.tokens, List.cons_append, readType?, textOf?_ofWord hr]
    simp only [readDimensions_tokens (Avoids.ne hends (by decide)) n]
  | named path n =>
    have hread : readReference? (typeCalls ((JavaType.named path n).tokens ++ ts))
        ((JavaType.named path n).tokens ++ ts) = some (.named path n, ts) :=
      (JavaType.named path n).readReference?_tokens trivial hr (by
        rw [typeCalls, List.length_append]
        omega) hends
    have hkind : textOf? .basicType ((JavaType.named path n).tokens ++ ts) = none := by
      rw [JavaType.tokens, List.append_assoc]
      exact path.textOf?_basicType_tokens hr _
    rw [readType?, hkind]
    exact hread

end Java
end BeanBuilder
