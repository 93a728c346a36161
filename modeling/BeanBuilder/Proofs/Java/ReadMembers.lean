import BeanBuilder.Proofs.BuilderText
import BeanBuilder.Proofs.Java.Statements

/-! # Members that are read back

The text of a field or of a method is scanned and then read as that member, whatever stands behind
it (`ReadsMember`).  Types are readable, names are identifiers, and the statements of a method are
texts that are taken as statements (`IsStatementText`).  Members one after another are read one by
one (`exists_readMembers?`).
-/
namespace BeanBuilder
namespace Java

open Grammar

/-! ## The beginning of a type -/

/-- A readable type begins with a word that is a name or a basic type. -/
theorem JavaType.exists_tokens_eq_cons {type : JavaType} (h : type.Readable) :
    ∃ word w, type.tokens = .ofWord word :: w ∧ word ∉ notNames ∧
      (wordKind word = .identifier ∨ wordKind word = .basicType) ∧
        (wordKind word = .identifier → ∀ {name : String} {ts : List Token}, IsIdentifier name →
          Avoids ["("] (w ++ .ofWord name :: ts)) := by
  have hname : ∀ {name : String} {ts : List Token}, IsIdentifier name →
      Avoids ["("] (.ofWord name :: ts) := fun hname => hname.avoids.mono (by decide)
  have hdimensions : ∀ (n : Nat) {name : String} {ts : List Token}, IsIdentifier name →
      Avoids ["("] (dimensionTokens n ++ .ofWord name :: ts) := by
    intro n name ts hn
    cases n with
    | zero => exact hname hn
    | succ n => exact .cons (by decide)
  cases type with
  | basic name n =>
    have hall : ∀ w ∈ basicTypeWords, w ∉ notNames := by decide
    refine ⟨name, dimensionTokens n, rfl, hall name (mem_basicTypeWords h), Or.inr h, ?_⟩
    intro hidentifier
    rw [show wordKind name = .basicType from h] at hidentifier
    exact nomatch hidentifier
  | named path n =>
    cases path with
    | last name arguments =>
      refine ⟨name, argumentsTokens arguments ++ dimensionTokens n, rfl, h.1.not_mem_notNames,
        Or.inl h.1.2, fun _ _ _ hn => ?_⟩
      rw [List.append_assoc]
      cases arguments with
      | nil => exact hdimensions n hn
      | cons a more => exact .cons (by decide)
    | outer name arguments inner =>
      refine ⟨name, argumentsTokens arguments ++ .separator '.' :: inner.tokens ++
        dimensionTokens n, rfl, h.1.not_mem_notNames, Or.inl h.1.2, fun _ _ _ hn => ?_⟩
      cases arguments with
      | nil => exact .cons (by decide)
      | cons a more => exact .cons (by decide)

theorem JavaType.withDimensions_zero (type : JavaType) : type.withDimensions 0 = type := by
  cases type <;> rfl

/-! ## Texts of statements -/

/-- A text that is scanned and taken as a statement. -/
def IsStatementText (text : String) : Prop :=
  ∃ s, IsStatement s ∧ ∀ rest, Scans (text.toList ++ rest) s rest

section Statements

variable {name field method : String} {more : List String} {rest : List Char}

/-- A name, a point and another name. -/
theorem Scans.selection (word : String) (hword : isName word = true) (hname : isName name = true)
    (hrest : TypeEnds rest) :
    Scans ((word ++ ".").toList ++ (name.toList ++ rest))
      [.ofWord word, .separator '.', .ofWord name] rest := by
  rw [String.toList_append, List.append_assoc]
  refine (Scans.word hword fun c hc => ?_).append
    ((Scans.separator (by decide) fun _ d hd => ?_).append (Scans.word hname hrest.part))
  · obtain rfl := Option.some.inj hc
    decide
  · have hstart := isIdentifierStart_of_head? hname rest d hd
    exact ⟨ne_of_isIdentifierStart hstart (by decide), isDigit_of_isIdentifierStart hstart⟩

/-- Blanks behind what is scanned. -/
theorem Scans.then_blank {cs : List Char} {ts : List Token} {c : Char} (h : Scans cs ts (c :: rest))
    (hc : Text.isBlank c = true) : Scans cs ts rest := by
  have hscan := h.append (.blank hc (.done rest))
  rwa [List.append_nil] at hscan

/-- Names with points between them. -/
theorem scans_names (hname : IsIdentifier name) (hmore : ∀ m ∈ more, IsIdentifier m)
    (hrest : TypeEnds rest) :
    Scans ((Text.joinStrings "." (name :: more)).toList ++ rest)
      (.ofWord name :: pointTokens more) rest := by
  rw [← TypePath.render_ofNames, ← TypePath.tokens_ofNames]
  exact (TypePath.ofNames name more).scans_render (TypePath.readable_ofNames hname hmore) hrest

/-- A text that begins with a sign ends names and types. -/
theorem TypeEnds.of_text {text : String} (h : (text.toList.head?.any fun c =>
    !isIdentifierPart c && c != '>' && c != '=') = true) : TypeEnds (text.toList ++ rest) := by
  cases htext : text.toList with
  | nil =>
    rw [htext] at h
    exact nomatch h
  | cons c cs =>
    rw [htext] at h
    simp only [List.head?_cons, Option.any_some, Bool.and_eq_true, Bool.not_eq_true',
      bne_iff_ne] at h
    exact .of_sign h.1.1 h.1.2 h.2

/-- The call of the method `add` of a field. -/
theorem isStatementText_add (hfield : IsIdentifier field) :
    IsStatementText ("this." ++ field ++ ".add(item);") := by
  refine ⟨[.ofWord "this", .separator '.', .ofWord field, .separator '.', .ofWord "add",
    .separator '(', .ofWord "item", .separator ')', .separator ';'], ⟨⟨_, _, rfl, by decide⟩,
      fun _ => takes_fieldCall hfield (by decide) (by decide)⟩, fun rest => ?_⟩
  simp only [String.toList_append, List.append_assoc]
  exact (Scans.selection "this" (by decide) hfield.1 (.of_text (by decide))).append
    (Scans.fixed [.separator '.', .word "add", .separator '(', .word "item", .separator ')',
      .separator ';'] (by decide) rest)

/-- The assignment to a field. -/
theorem isStatementText_assign (hfield : IsIdentifier field) :
    IsStatementText ("this." ++ field ++ " = obj;") := by
  refine ⟨[.ofWord "this", .separator '.', .ofWord field, ⟨.operator, "="⟩, .ofWord "obj",
    .separator ';'], ⟨⟨_, _, rfl, by decide⟩,
      fun _ => takes_fieldAssignment hfield (by decide)⟩, fun rest => ?_⟩
  simp only [String.toList_append, List.append_assoc]
  exact (Scans.selection "this" (by decide) hfield.1 (.of_text (by decide))).append
    (Scans.fixed [.blank ' ', .operator '=', .blank ' ', .word "obj", .separator ';']
      (by decide) rest)

theorem isStatementText_returnThis : IsStatementText "return this;" :=
  ⟨[.ofWord "return", .ofWord "this", .separator ';'], ⟨⟨_, _, rfl, by decide⟩,
    fun _ => takes_returnThis⟩, Scans.fixed [.word "return", .blank ' ', .word "this",
      .separator ';'] (by decide)⟩

theorem isStatementText_returnObject : IsStatementText "return obj;" :=
  ⟨[.ofWord "return", .ofWord "obj", .separator ';'], ⟨⟨_, _, rfl, by decide⟩,
    fun _ => takes_returnName (by decide)⟩, Scans.fixed [.word "return", .blank ' ',
      .word "obj", .separator ';'] (by decide)⟩

/-- A field is handed over. -/
theorem isStatementText_handOver (hmethod : IsIdentifier method) (hfield : IsIdentifier field) :
    IsStatementText ("obj." ++ method ++ "(" ++ field ++ ");") := by
  refine ⟨[.ofWord "obj", .separator '.', .ofWord method, .separator '(', .ofWord field,
    .separator ')', .separator ';'], ⟨⟨_, _, rfl, by decide⟩,
      fun _ => takes_variableCall (by decide) hmethod hfield⟩, fun rest => ?_⟩
  simp only [String.toList_append, List.append_assoc]
  exact (Scans.selection "obj" (by decide) hmethod.1 (.of_text (by decide))).append
    ((Scans.fixed [.separator '('] (by decide) _).append
      ((Scans.word hfield.1 (TypeEnds.of_text (by decide)).part).append
        (Scans.fixed [.separator ')', .separator ';'] (by decide) rest)))

/-- A new object is made. -/
theorem isStatementText_newObject (hname : IsIdentifier name) (hmore : ∀ m ∈ more, IsIdentifier m) :
    IsStatementText (Text.joinStrings "." (name :: more) ++ " obj = new " ++
      Text.joinStrings "." (name :: more) ++ "();") := by
  refine ⟨.ofWord name :: (pointTokens more ++ .ofWord "obj" :: ⟨.operator, "="⟩ ::
    .ofWord "new" :: .ofWord name :: (pointTokens more ++ [.separator '(', .separator ')',
      .separator ';'])), ⟨⟨_, _, rfl, ?_⟩, fun rest => ?_⟩, fun rest => ?_⟩
  · exact fun h => hname.not_mem_notNames ((show name = _ from h) ▸ by decide)
  · simpa using takes_newVariable hname hmore (show IsIdentifier "obj" by decide)
  simp only [String.toList_append, List.append_assoc]
  exact (scans_names hname hmore (TypeEnds.of_text (by decide))).append
    ((Scans.fixed [.blank ' ', .word "obj", .blank ' ', .operator '=', .blank ' ', .word "new",
      .blank ' '] (by decide) _).append
        ((scans_names hname hmore (TypeEnds.of_text (by decide))).append
          (Scans.fixed [.separator '(', .separator ')', .separator ';'] (by decide) rest)))

/-- The answer with a new object. -/
theorem isStatementText_returnNew (hname : IsIdentifier name) (hmore : ∀ m ∈ more, IsIdentifier m) :
    IsStatementText ("return new " ++ Text.joinStrings "." (name :: more) ++ "();") := by
  refine ⟨.ofWord "return" :: .ofWord "new" :: .ofWord name :: (pointTokens more ++
    [.separator '(', .separator ')', .separator ';']), ⟨⟨_, _, rfl, by decide⟩, fun rest => ?_⟩,
      fun rest => ?_⟩
  · simpa using takes_returnNew hname hmore
  simp only [String.toList_append, List.append_assoc]
  exact (Scans.fixed [.word "return", .blank ' ', .word "new", .blank ' '] (by decide)
    _).append ((scans_names hname hmore (TypeEnds.of_text (by decide))).append
      (Scans.fixed [.separator '(', .separator ')', .separator ';'] (by decide) rest))

end Statements

/-! ## Members -/

/-- A text that is scanned and read as a member, whatever stands behind it. -/
def ReadsMember (text : String) (m : Member) : Prop :=
  ∃ ts, (∀ rest, Scans (text.toList ++ rest) ts rest) ∧ (∃ t w, ts = t :: w ∧ t.text ≠ r"}") ∧
    ∀ more, readMember? (ts ++ more) = some (m, more)

section Members

variable {type : JavaType} {name : String} {ts rest : List Token} {m : Modifiers}

/-- No modifiers stand before a type. -/
theorem readModifiers?_tokens (hr : type.Readable) (steps : Nat) (m : Modifiers) :
    readModifiers? (steps + 1) m (type.tokens ++ ts) = some (m, type.tokens ++ ts) := by
  obtain ⟨word, w, htokens, -, hkind, -⟩ := type.exists_tokens_eq_cons hr
  have hkinds : (Token.ofWord word).kind ≠ .modifier ∧ (Token.ofWord word).kind ≠ .at := by
    rcases hkind with h | h <;> simp [Token.ofWord, h]
  rw [htokens, List.cons_append, readModifiers?, textOf?_eq_none hkinds.1]
  simp only [annotationAhead_eq_false hkinds.2]
  rfl

/-- A modifier before what is read. -/
theorem readModifiers?_ofWord {word : String} (hkind : wordKind word = .modifier) (steps : Nat)
    (m : Modifiers) :
    readModifiers? (steps + 1) m (.ofWord word :: ts) =
      readModifiers? steps { m with isStatic := m.isStatic || word = "static" } ts := by
  rw [readModifiers?, textOf?_ofWord hkind]

/-- Behind its modifiers, a field or a method begins with its type. -/
theorem readMemberRest?_tokens (hr : type.Readable) (hname : IsIdentifier name) (m : Modifiers) :
    readMemberRest? m (type.tokens ++ .ofWord name :: ts) =
      if startsWith "(" ts then readMethod? m type name ts
      else passOver? (fieldsRest ++ .word ";") ts := by
  obtain ⟨word, w, htokens, hword, hkind, hcall⟩ := type.exists_tokens_eq_cons hr
  have hhead : Avoids notNames (type.tokens ++ .ofWord name :: ts) := by
    rw [htokens]
    exact .cons hword
  have hvoid : afterText? "void" (type.tokens ++ .ofWord name :: ts) = none :=
    afterText?_eq_none (hhead.ne (by decide))
  have hgeneric : startsWith "<" (type.tokens ++ .ofWord name :: ts) = false := by
    rw [startsWith, afterText?_eq_none (hhead.ne (by decide))]
    rfl
  have hdeclares : typeWordAhead (type.tokens ++ .ofWord name :: ts) = false := by
    have hwords : Ahead.oneOf ["class", "enum", "interface"] (type.tokens ++ .ofWord name :: ts) =
        false := hhead.oneOf_eq_false (by decide)
    have hmark : annotationTypeAhead (type.tokens ++ .ofWord name :: ts) = false :=
      hhead.words_eq_false (by decide) _
    rw [typeWordAhead, Ahead.or, hwords, hmark, Bool.or_false]
  have hconstructor : callAhead (type.tokens ++ .ofWord name :: ts) = false := by
    rw [htokens, List.cons_append, callAhead, Ahead.all]
    rcases hkind with h | h
    · rw [(hcall h hname).all_eq_false List.mem_cons_self, Bool.and_false]
    · simp [TokenTest.holds, Token.ofWord, h]
  have hread : readType? (type.tokens ++ .ofWord name :: ts) = some (type, .ofWord name :: ts) :=
    readType?_tokens hr (hname.avoids.mono (by decide))
  rw [readMemberRest?, hvoid]
  simp only [hgeneric, hdeclares, hconstructor, hread, Bool.false_eq_true, if_false,
    Option.bind_eq_bind, Option.bind_some, textOf?_ofWord hname.2]

theorem readDimensions_of_ne {t : Token} (h : t.text ≠ "[") :
    readDimensions (t :: ts) = (0, t :: ts) := by
  have hhead : ∀ u ∈ (t :: ts).head?, u.text ≠ "[" := fun _ hu => Option.some.inj hu ▸ h
  exact readDimensions_tokens hhead 0

/-- The parameters of a method with one parameter. -/
theorem readParameterList?_one (hr : type.Readable) (hname : IsIdentifier name) :
    readParameterList? (.separator '(' :: (type.tokens ++ .ofWord name :: .separator ')' :: ts)) =
      some ([type], ts) := by
  obtain ⟨word, w, htokens, hword, hkind, -⟩ := type.exists_tokens_eq_cons hr
  have hclose : afterText? ")" (type.tokens ++ .ofWord name :: .separator ')' :: ts) = none := by
    rw [htokens]
    exact afterText?_eq_none ((Avoids.cons hword).ne (by decide))
  have hmodifiers : after? variableModifiers (type.tokens ++ .ofWord name :: .separator ')' :: ts) =
      some (type.tokens ++ .ofWord name :: .separator ')' :: ts) := by
    refine after?_of_takes (k := 0) (.repeated_nil ?_) (Nat.zero_le _)
    rw [htokens]
    refine variableModifier_eq_false (fun hfinal => hword ?_) ?_
    · rw [show word = "final" from hfinal]
      decide
    · rcases hkind with h | h <;> simp [Token.ofWord, h]
  have hread : readType? (type.tokens ++ .ofWord name :: .separator ')' :: ts) =
      some (type, .ofWord name :: .separator ')' :: ts) :=
    readType?_tokens hr (hname.avoids.mono (by decide))
  have hdots : afterText? "..." (.ofWord name :: .separator ')' :: ts) = none :=
    afterText?_eq_none (hname.avoids.ne (by decide))
  have hdimensions : readDimensions (.separator ')' :: ts) = (0, .separator ')' :: ts) :=
    readDimensions_of_ne (by decide)
  have hcomma : afterText? "," (.separator ')' :: ts) = none :=
    afterText?_eq_none fun _ ht => Option.some.inj ht ▸ by decide
  have hend : afterText? ")" (.separator ')' :: ts) = some ts := afterText?_cons (by decide)
  rw [readParameterList?, afterText?_cons (by decide)]
  simp only [Option.bind_eq_bind, Option.bind_some, hclose, readParameters?, hmodifiers, hread,
    hdots, textOf?_ofWord hname.2, hdimensions, hcomma, hend, type.withDimensions_zero]
  rfl

theorem readParameterList?_none :
    readParameterList? (.separator '(' :: .separator ')' :: ts) = some ([], ts) := by
  rw [readParameterList?, afterText?_cons (by decide)]
  simp only [Option.bind_eq_bind, Option.bind_some, afterText?_cons (show
    (Token.separator ')').text = ")" by decide)]
  rfl

/-- A method is read with its parameters and passed over to the end of its body. -/
theorem readMethod?_tokens {parameters : List JavaType} {statements : List (List Token)}
    (hparameters : readParameterList? ts = some (parameters, .separator '{' ::
      (statements.flatten ++ .separator '}' :: rest)))
    (h : ∀ s ∈ statements, IsStatement s) :
    readMethod? m type name ts = some (.method ⟨name, m, some type, parameters⟩, rest) := by
  have hdimensions : ∀ ts,
      readDimensions (.separator '{' :: ts) = (0, .separator '{' :: ts) :=
    fun ts => readDimensions_of_ne (by decide)
  have hbody : after? (throwsList ++ bodyOrNone) (.separator '{' ::
      (statements.flatten ++ .separator '}' :: rest)) = some rest :=
    after?_of_takes (takes_body h) (Nat.le_add_left 8 _)
  rw [readMethod?, hparameters]
  simp only [Option.bind_eq_bind, Option.bind_some, hdimensions, hbody, type.withDimensions_zero]
  rfl

/-- A modifier other than `static` begins a field or a method. -/
theorem readMember?_ofWord {word : String} (hkind : wordKind word = .modifier)
    (hword : word ≠ "static") :
    readMember? (.ofWord word :: ts) =
      (readModifiers? (ts.length + 1) {} ts).bind fun r => readMemberRest? r.1 r.2 := by
  have hother : ∀ sign, wordKind sign ≠ .modifier →
      startsWith sign (.ofWord word :: ts) = false := by
    intro sign hsign
    rw [startsWith, afterText?_eq_none]
    · rfl
    · intro t ht heq
      obtain rfl := Option.some.inj ht
      exact hsign (show wordKind sign = .modifier from heq ▸ hkind)
  have hhead : Avoids ["static"] (.ofWord word :: ts) :=
    .cons fun hmem => hword (List.mem_singleton.mp hmem)
  have hblock : Ahead.words ["static", r"{"] (.ofWord word :: ts) = false :=
    hhead.words_eq_false List.mem_cons_self _
  rw [readMember?, hother ";" (by decide), hother r"{" (by decide), hblock, List.length_cons,
    readModifiers?_ofWord hkind]
  simp [hword]

end Members

/-! ### Fields -/

/-- A text that is scanned and taken as the value of a field. -/
def IsValueText (value : String) : Prop :=
  ∃ ts, (∀ rest, Avoids [r"{"] (ts ++ rest)) ∧
    (∀ rest, Takes 3 (.call .expression) (ts ++ .separator ';' :: rest) (.separator ';' :: rest)) ∧
      ∀ rest, Scans (value.toList ++ ';' :: rest) ts (';' :: rest)

theorem isValueText_of_literal {value : String} {t : Token} (hkind : t.kind = .literal)
    (hnot : t.text ∉ r"{" :: operandSigns)
    (hscan : ∀ rest, Scans (value.toList ++ ';' :: rest) [t] (';' :: rest)) :
    IsValueText value := by
  rw [List.mem_cons, not_or] at hnot
  refine ⟨[t], fun rest => .cons ?_, fun rest => ?_, hscan⟩
  · exact fun hmem => hnot.1 (List.mem_singleton.mp hmem)
  · exact takes_expression (takes_primary (k := 0) (takes_literal hkind) (.cons (by decide)))
      (.cons hnot.2) (.cons (by decide))

theorem isValueText_emptyString : IsValueText "\"\"" :=
  isValueText_of_literal (by decide) (by decide) fun _ => Scans.emptyString

theorem isValueText_null : IsValueText "null" :=
  isValueText_of_literal (by decide) (by decide) fun _ =>
    Scans.word (by decide) fun _ hc => Option.some.inj hc ▸ by decide

/-- A new object of a class whose type arguments are left open. -/
theorem isValueText_new (name : String) (more : List String) (hname : IsIdentifier name)
    (hmore : ∀ m ∈ more, IsIdentifier m) :
    IsValueText ("new " ++ Text.joinStrings "." (name :: more) ++ "<>()") := by
  refine ⟨.ofWord "new" :: .ofWord name :: (pointTokens more ++ [⟨.operator, "<"⟩,
    ⟨.operator, ">"⟩, .separator '(', .separator ')']), fun rest => .cons (by decide),
      fun rest => ?_, fun rest => ?_⟩
  · have htakes : Takes 0 primary (.ofWord "new" :: .ofWord name :: (pointTokens more ++
        ⟨.operator, "<"⟩ :: ⟨.operator, ">"⟩ :: .separator '(' :: .separator ')' ::
          .separator ';' :: rest)) (.separator ';' :: rest) :=
      takes_new_diamond hname hmore (.cons (by decide))
    refine takes_expression (takes_primary ?_ (.cons (by decide))) (.cons (by decide))
      (.cons (by decide))
    simpa using htakes
  · simp only [String.toList_append, List.append_assoc]
    exact (Scans.fixed [.word "new", .blank ' '] (by decide) _).append
      ((scans_names hname hmore (TypeEnds.of_text (by decide))).append
        (Scans.fixed [.operator '<', .operator '>', .separator '(', .separator ')']
          (by decide) _))

/-- What stands behind the name of a field. -/
def initialText : Option String → String
  | none => ";"
  | some value => " = " ++ value ++ ";"

theorem fieldLine_eq (s : BuilderStyle) (m : BeanBuilder.Member) :
    s.fieldLine m =
      s.layout.memberLine ("private " ++ m.type ++ " " ++ m.field ++ initialText m.initial) := by
  rw [BuilderStyle.fieldLine]
  cases m.initial <;> simp [initialText, String.append_assoc]

theorem typeEnds_initialText (initial : Option String) (rest : List Char) :
    TypeEnds ((initialText initial).toList ++ rest) := by
  cases initial with
  | none => exact TypeEnds.of_text (by decide)
  | some value =>
    simp only [initialText, String.toList_append, List.append_assoc]
    exact TypeEnds.of_text (by decide)

theorem exists_initialTokens {initial : Option String} (h : ∀ value ∈ initial, IsValueText value) :
    ∃ ts, (∀ rest, startsWith "(" (ts ++ rest) = false) ∧
      (∀ rest, Takes 4 (fieldsRest ++ .word ";") (ts ++ rest) rest) ∧
        ∀ rest, Scans ((initialText initial).toList ++ rest) ts rest := by
  cases initial with
  | none =>
    exact ⟨[.separator ';'], fun _ => rfl, fun _ => takes_field, fun rest =>
      Scans.fixed [.separator ';'] (by decide) rest⟩
  | some value =>
    obtain ⟨ts, hhead, htakes, hscan⟩ := h value rfl
    refine ⟨⟨.operator, "="⟩ :: (ts ++ [.separator ';']), fun _ => rfl, fun rest => ?_,
      fun rest => ?_⟩
    · rw [List.cons_append, List.append_assoc]
      exact takes_field_of_value (hhead _) (htakes rest)
    · simp only [initialText, String.toList_append, List.append_assoc]
      exact (Scans.fixed [.blank ' ', .operator '=', .blank ' '] (by decide) _).append
        ((hscan _).append (Scans.separator (by decide) fun h => absurd h (by decide)))

/-- **The line of a field is read as a member that does not matter.** -/
theorem readsMember_field {m : BeanBuilder.Member} {type : JavaType} (hr : type.Readable)
    (htype : type.render id = m.type) (hfield : IsIdentifier m.field)
    (hinitial : ∀ value ∈ m.initial, IsValueText value) :
    ReadsMember (({} : BuilderStyle).fieldLine m) .other := by
  obtain ⟨its, hopen, htakes, hscan⟩ := exists_initialTokens hinitial
  refine ⟨.ofWord "private" :: (type.tokens ++ .ofWord m.field :: its), fun rest => ?_,
    ⟨_, _, rfl, by decide⟩, fun more => ?_⟩
  · rw [fieldLine_eq, ← htype, Draft.Layout.memberLine]
    simp only [String.toList_append, List.append_assoc]
    exact (Scans.fixed [.blank '\t'] (by decide) _).append
      ((Scans.fixed [.word "private", .blank ' '] (by decide) _).append
        ((type.scans_render hr (TypeEnds.of_text (by decide))).append
          ((Scans.fixed [.blank ' '] (by decide) _).append
            ((Scans.word hfield.1 (typeEnds_initialText _ _).part).append
              ((hscan _).then_blank (by decide))))))
  · have hpass : passOver? (fieldsRest ++ .word ";") (its ++ more) = some (.other, more) := by
      rw [passOver?, after?_of_takes (htakes more) (Nat.le_trans (by decide) (Nat.le_add_left 8 _))]
      rfl
    rw [List.cons_append, List.append_assoc, List.cons_append,
      readMember?_ofWord (by decide) (by decide), readModifiers?_tokens hr, Option.bind_some,
      readMemberRest?_tokens hr hfield, hopen]
    exact hpass

/-! ### Methods -/

/-- A parameter as it is written, if there is one. -/
def parameterText : Option (JavaType × String) → String
  | none => ""
  | some (type, name) => type.render id ++ " " ++ name

/-- The tokens of a parameter, if there is one. -/
def parameterTokens : Option (JavaType × String) → List Token
  | none => []
  | some (type, name) => type.tokens ++ [.ofWord name]

section Methods

variable {parameter : Option (JavaType × String)}

theorem readParameterList?_tokens
    (h : ∀ p ∈ parameter, p.1.Readable ∧ IsIdentifier p.2) (ts : List Token) :
    readParameterList? (.separator '(' :: (parameterTokens parameter ++ .separator ')' :: ts)) =
      some ((parameter.map Prod.fst).toList, ts) := by
  cases parameter with
  | none => exact readParameterList?_none
  | some p =>
    rw [parameterTokens, List.append_assoc]
    exact readParameterList?_one (h p rfl).1 (h p rfl).2

theorem scans_parameterText (h : ∀ p ∈ parameter, p.1.Readable ∧ IsIdentifier p.2)
    (rest : List Char) :
    Scans ((parameterText parameter).toList ++ ')' :: rest) (parameterTokens parameter)
      (')' :: rest) := by
  cases parameter with
  | none => exact .done _
  | some p =>
    rw [parameterText]
    simp only [String.toList_append, List.append_assoc]
    have hclose : TypeEnds (')' :: rest) :=
      .of_sign (by decide) (by decide) (by decide)
    exact (p.1.scans_render (h p rfl).1 (TypeEnds.of_text (by decide))).append
      ((Scans.fixed [.blank ' '] (by decide) _).append
        (Scans.word (h p rfl).2.1 hclose.part))

/-- Statements below one another are scanned one by one. -/
theorem exists_scans_statements {statements : List String}
    (h : ∀ text ∈ statements, IsStatementText text) :
    ∃ ss : List (List Token), (∀ s ∈ ss, IsStatement s) ∧ ∀ rest,
      Scans ((String.join (statements.map ({} : Draft.Layout).statementLine)).toList ++ rest)
        ss.flatten rest := by
  induction statements with
  | nil => exact ⟨[], by simp, fun rest => .done rest⟩
  | cons text more ih =>
    rw [List.forall_mem_cons] at h
    obtain ⟨s, hs, hscan⟩ := h.1
    obtain ⟨ss, hss, hscans⟩ := ih h.2
    refine ⟨s :: ss, List.forall_mem_cons.mpr ⟨hs, hss⟩, fun rest => ?_⟩
    rw [List.map_cons, String.join_cons, Draft.Layout.statementLine]
    simp only [String.toList_append, List.append_assoc]
    exact (Scans.fixed [.blank '\t'] (by decide) _).append
      ((Scans.fixed [.blank '\t'] (by decide) _).append ((hscan _).append
        ((Scans.fixed [.blank '\n'] (by decide) _).append (hscans rest))))

/-- The head of a public method. -/
def methodHead (isStatic : Bool) (type : JavaType) (name : String)
    (parameter : Option (JavaType × String)) : String :=
  "public " ++ (if isStatic then "static " else "") ++ type.render id ++ " " ++ name ++ "(" ++
    parameterText parameter ++ ")"

/-- The tokens of the head of a public method. -/
def methodHeadTokens (isStatic : Bool) (type : JavaType) (name : String)
    (parameter : Option (JavaType × String)) : List Token :=
  .ofWord "public" :: ((if isStatic then [.ofWord "static"] else []) ++ (type.tokens ++
    .ofWord name :: .separator '(' :: (parameterTokens parameter ++ [.separator ')'])))

variable {isStatic : Bool} {type : JavaType} {name : String}

theorem scans_methodHead (hr : type.Readable) (hname : IsIdentifier name)
    (hparameter : ∀ p ∈ parameter, p.1.Readable ∧ IsIdentifier p.2) (rest : List Char) :
    Scans ((methodHead isStatic type name parameter).toList ++ rest)
      (methodHeadTokens isStatic type name parameter) rest := by
  have hstatic : ∀ rest, Scans ((if isStatic then "static " else "").toList ++ rest)
      (if isStatic then [.ofWord "static"] else []) rest := by
    intro rest
    cases isStatic with
    | false => exact .done rest
    | true => exact Scans.fixed [.word "static", .blank ' '] (by decide) rest
  simp only [methodHead, String.toList_append, List.append_assoc]
  exact (Scans.fixed [.word "public", .blank ' '] (by decide) _).append
    ((hstatic _).append ((type.scans_render hr (TypeEnds.of_text (by decide))).append
      ((Scans.fixed [.blank ' '] (by decide) _).append
        ((Scans.word hname.1 (TypeEnds.of_text (by decide)).part).append
          ((Scans.fixed [.separator '('] (by decide) _).append
            ((scans_parameterText hparameter _).append
              (Scans.separator (by decide) fun h => absurd h (by decide))))))))

/-- **A public method with at most one parameter is read as it is written.** -/
theorem readsMember_method {statements : List String} (hr : type.Readable)
    (hname : IsIdentifier name) (hparameter : ∀ p ∈ parameter, p.1.Readable ∧ IsIdentifier p.2)
    (hstatements : ∀ text ∈ statements, IsStatementText text) :
    ReadsMember (({} : Draft.Layout).methodBlock (methodHead isStatic type name parameter)
      statements) (.method ⟨name, { isStatic }, some type, (parameter.map Prod.fst).toList⟩) := by
  obtain ⟨ss, hss, hscan⟩ := exists_scans_statements hstatements
  refine ⟨methodHeadTokens isStatic type name parameter ++ .separator '{' ::
    (ss.flatten ++ [.separator '}']), fun rest => ?_, ⟨_, _, rfl, by decide⟩, fun more => ?_⟩
  · rw [Draft.Layout.methodBlock, Draft.Layout.memberLine, Draft.Layout.memberLine]
    simp only [String.toList_append, List.append_assoc]
    exact (Scans.fixed [.blank '\n'] (by decide) _).append
      ((Scans.fixed [.blank '\t'] (by decide) _).append
        ((scans_methodHead hr hname hparameter _).append
          ((Scans.fixed [.blank ' ', .separator '{'] (by decide) _).append
            ((Scans.fixed [.blank '\n'] (by decide) _).append ((hscan _).append
              ((Scans.fixed [.blank '\t'] (by decide) _).append
                ((Scans.fixed [.separator '}'] (by decide) _).then_blank
                  (by decide))))))))
  · have hmodifiers : ∀ ts, readModifiers?
        (((if isStatic then [Token.ofWord "static"] else []) ++ (type.tokens ++ ts)).length + 1) {}
        ((if isStatic then [Token.ofWord "static"] else []) ++ (type.tokens ++ ts)) =
          some ({ isStatic }, type.tokens ++ ts) := by
      intro ts
      cases isStatic with
      | false => exact readModifiers?_tokens hr _ {}
      | true => exact (readModifiers?_ofWord (by decide) _ {}).trans (readModifiers?_tokens hr _ _)
    have hparameters : readParameterList? (.separator '(' :: (parameterTokens parameter ++
        .separator ')' :: .separator '{' :: (ss.flatten ++ .separator '}' :: more))) =
          some ((parameter.map Prod.fst).toList, .separator '{' ::
            (ss.flatten ++ .separator '}' :: more)) :=
      readParameterList?_tokens hparameter _
    have hopen : ∀ ts, startsWith "(" (.separator '(' :: ts) = true := fun _ => rfl
    simp only [methodHeadTokens, List.cons_append, List.append_assoc, List.nil_append]
    rw [readMember?_ofWord (by decide) (by decide), hmodifiers, Option.bind_some,
      readMemberRest?_tokens hr hname, hopen, if_pos rfl]
    exact readMethod?_tokens hparameters hss

end Methods

/-! ### Members one after another -/

/-- **Members are read one by one** up to the closing brace of their class. -/
theorem exists_readMembers? {texts : List String} {members : List Member}
    (h : List.Forall₂ ReadsMember texts members) :
    ∃ ts, (∀ rest, Scans ((String.join texts).toList ++ rest) ts rest) ∧
      ∀ more steps, ts.length < steps →
        readMembers? steps (ts ++ .separator '}' :: more) = some (members, more) := by
  induction h with
  | nil =>
    refine ⟨[], fun rest => .done rest, fun more steps hsteps => ?_⟩
    obtain ⟨steps, rfl⟩ := Nat.exists_eq_succ_of_ne_zero (Nat.ne_zero_of_lt hsteps)
    rw [List.nil_append, readMembers?, afterText?_cons (by decide)]
  | @cons text member texts members hone _ ih =>
    obtain ⟨ts, hscan, ⟨t, w, rfl, ht⟩, hread⟩ := hone
    obtain ⟨ts', hscans, hreads⟩ := ih
    refine ⟨t :: w ++ ts', fun rest => ?_, fun more steps hsteps => ?_⟩
    · rw [String.join_cons, String.toList_append, List.append_assoc]
      exact (hscan _).append (hscans rest)
    · obtain ⟨steps, rfl⟩ := Nat.exists_eq_succ_of_ne_zero (Nat.ne_zero_of_lt hsteps)
      have hclose : ∀ ts, afterText? r"}" (t :: ts) = none := fun _ =>
        afterText?_eq_none fun _ hu => Option.some.inj hu ▸ ht
      have hlength : ts'.length < steps := by
        simp only [List.cons_append, List.length_cons, List.length_append] at hsteps
        omega
      rw [List.append_assoc, readMembers?, List.cons_append, hclose]
      simp only [← List.cons_append, hread, hreads more steps hlength, Option.bind_eq_bind,
        Option.bind_some]
      rfl

end Java
end BeanBuilder
