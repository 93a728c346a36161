import BeanBuilder.Proofs.Java.Taking

/-! # Statements that are taken

The grammar takes the statements that builders are made of: a call on a field or a variable, an
assignment to a field, a local variable with a new object, and the answers (`takes_block`).  Names
are any identifiers.

An expression is taken operand by operand, and ends where neither an operator nor a selection nor an
assignment follows.
-/
namespace BeanBuilder
namespace Java

/-! ## Names with points -/

/-- The tokens of names, each behind a point. -/
def pointTokens : List String → List Token
  | [] => []
  | name :: more => .separator '.' :: .ofWord name :: pointTokens more

namespace TypePath

/-- The path of some names without arguments. -/
def ofNames : String → List String → TypePath
  | name, [] => .last name []
  | name, next :: more => .outer name [] (ofNames next more)

variable {name : String} {more : List String}

theorem tokens_ofNames (name : String) (more : List String) :
    (ofNames name more).tokens = .ofWord name :: pointTokens more := by
  induction more generalizing name with
  | nil => rfl
  | cons next more ih =>
    rw [ofNames, tokens, argumentsTokens, List.nil_append, ih]
    rfl

theorem readable_ofNames (hname : IsIdentifier name) (hmore : ∀ m ∈ more, IsIdentifier m) :
    (ofNames name more).Readable := by
  induction more generalizing name with
  | nil => exact ⟨hname, trivial⟩
  | cons next more ih =>
    rw [List.forall_mem_cons] at hmore
    exact ⟨hname, trivial, ih hmore.1 hmore.2⟩

theorem render_ofNames (name : String) (more : List String) :
    (ofNames name more).render id id = Text.joinStrings "." (name :: more) := by
  induction more generalizing name with
  | nil => exact String.append_empty
  | cons next more ih =>
    rw [ofNames, render, argumentsText, ih, String.append_empty]
    rfl

end TypePath

/-- Words of the grammar that are no names. -/
def notNames : List String :=
  ["(", ")", "[", "<", ";", ":", ".", "...", r"{", r"}", "@", "!", "~", "+", "-", "++", "--",
    "assert", "break", "class", "continue", "do", "enum", "extends", "final", "for", "if",
    "interface", "new", "return", "super", "switch", "synchronized", "this", "throw", "throws",
    "try", "void", "while"]

namespace IsIdentifier

variable {name : String} {ts : List Token}

/-- An identifier is none of the other words of the grammar. -/
theorem not_mem_notNames (h : IsIdentifier name) : name ∉ notNames := by
  have hall : ∀ w ∈ notNames, ¬ IsIdentifier w := by decide
  exact fun hmem => hall name hmem h

theorem avoids (h : IsIdentifier name) : Avoids notNames (.ofWord name :: ts) :=
  .cons h.not_mem_notNames

theorem kind_ofWord (h : IsIdentifier name) : (Token.ofWord name).kind = .identifier :=
  h.2

theorem kind_eq (h : IsIdentifier name) (kind : TokenKind) :
    Ahead.kind kind (.ofWord name :: ts) = decide (TokenKind.identifier = kind) := by
  simp [Ahead.kind, Ahead.all, TokenTest.holds, h.kind_ofWord]

end IsIdentifier

namespace Grammar

open Rule

variable {k j : Nat} {name : String} {more : List String} {ts mid rest : List Token}

/-! ## Expressions -/

/-- The texts that begin an operand which is more than a selection. -/
def operandSigns : List String :=
  "(" :: signWords

/-- The texts that go on with an operand. -/
def operandContinuations : List String :=
  infixWords ++ ["?", "->", "::", "[", ".", "(", r"{", "++", "--"]

/-- The texts that go on with an expression. -/
def expressionContinuations : List String :=
  operandContinuations ++ assignmentWords

theorem takes_selected (hprimary : Takes k primary ts mid)
    (hselectors : Takes k (.repeated (.oneOf ["[", "."]) selector) mid rest)
    (hends : Avoids operandContinuations rest) : Takes k selected ts rest :=
  (hprimary.seq hselectors).seq (.repeated_nil (hends.oneOf_eq_false (by decide)))

theorem takes_primary (hprimary : Takes k primary ts rest)
    (hends : Avoids operandContinuations rest) : Takes k selected ts rest :=
  takes_selected hprimary (.repeated_nil (hends.oneOf_eq_false (by decide))) hends

theorem takes_conditional (h : Takes k selected ts rest) (hhead : Avoids operandSigns ts)
    (hends : Avoids operandContinuations rest) : Takes (k + 2) (.call .conditional) ts rest := by
  have hoperand : Takes k operand ts rest :=
    (Takes.repeated_nil (hhead.oneOf_eq_false (by decide))).seq
      (.no (hhead.word_eq_false (by decide)) h)
  have hchoice : Ahead.word "?" rest = false := hends.word_eq_false (by decide)
  have harrow : Ahead.word "->" rest = false := hends.word_eq_false (by decide)
  have hmethod : Ahead.word "::" rest = false := hends.word_eq_false (by decide)
  refine .call ((hoperand.call.seq (.repeated_nil (hends.oneOf_eq_false (by decide)))).seq
    (.otherwise ?_ .empty))
  simp [hchoice, harrow, hmethod]

/-- **A selection is an expression** where nothing goes on with it. -/
theorem takes_expression (h : Takes k selected ts rest) (hhead : Avoids operandSigns ts)
    (hends : Avoids expressionContinuations rest) : Takes (k + 3) (.call .expression) ts rest := by
  refine .call ((takes_conditional h hhead (hends.mono ?_)).seq
    (.ifAhead_no (hends.oneOf_eq_false ?_)))
  · exact List.subset_append_left _ _
  · exact List.subset_append_right _ _

/-- An assignment is an expression. -/
theorem takes_assignment (h : Takes k selected ts (⟨.operator, "="⟩ :: mid))
    (hhead : Avoids operandSigns ts) (hvalue : Takes j (.call .expression) mid rest)
    (hkj : k + 2 ≤ j) : Takes (j + 1) (.call .expression) ts rest :=
  .call (((takes_conditional h hhead (.cons (by decide))).mono hkj).seq
    (.yes rfl (Takes.any.seq hvalue)))

/-! ### Operands -/

theorem takes_literal {t : Token} (h : t.kind = .literal) : Takes k primary (t :: ts) ts :=
  .option 0 rfl (by simp [Ahead.kind, Ahead.all, TokenTest.holds, h]) rfl .any

theorem takes_this (hends : Avoids ["("] ts) : Takes k primary (.ofWord "this" :: ts) ts :=
  .option 2 rfl rfl rfl
    ((Takes.word rfl).seq (.ifAhead_no (hends.word_eq_false List.mem_cons_self)))

/-- What a name begins is none of the other operands. -/
theorem takes_primary_name (hname : IsIdentifier name)
    (h : Takes k (.identifier ++ .repeated (.all [.word ".", .kind .identifier])
      (.word "." ++ .identifier) ++ nameRest) (.ofWord name :: ts) rest) :
    Takes k primary (.ofWord name :: ts) rest := by
  have hliteral : Ahead.kind .literal (.ofWord name :: ts) = false := hname.kind_eq _
  have hbracket : Ahead.word "(" (.ofWord name :: ts) = false :=
    hname.avoids.word_eq_false (by decide)
  have hthis : Ahead.word "this" (.ofWord name :: ts) = false :=
    hname.avoids.word_eq_false (by decide)
  have hsuper : Ahead.word "super" (.ofWord name :: ts) = false :=
    hname.avoids.word_eq_false (by decide)
  have hmethod : Ahead.words ["super", "::"] (.ofWord name :: ts) = false :=
    hname.avoids.words_eq_false (by decide) _
  have hnew : Ahead.word "new" (.ofWord name :: ts) = false :=
    hname.avoids.word_eq_false (by decide)
  have hgeneric : Ahead.word "<" (.ofWord name :: ts) = false :=
    hname.avoids.word_eq_false (by decide)
  refine .option 7 rfl ((hname.kind_eq _).trans rfl) ?_ h
  simp [hliteral, hbracket, hthis, hsuper, hmethod, hnew, hgeneric]

theorem takes_name (hname : IsIdentifier name) (hends : Avoids ["(", ".", "["] ts) :
    Takes k primary (.ofWord name :: ts) ts := by
  have hcall : Ahead.word "(" ts = false := hends.word_eq_false (by decide)
  have hdimensions : Ahead.words ["[", "]"] ts = false := hends.words_eq_false (by decide) _
  have hpoint : ∀ more, Ahead.words ("." :: more) ts = false := hends.words_eq_false (by decide)
  refine takes_primary_name hname (((Takes.identifier hname.2).seq (.repeated_nil
    (hends.all_eq_false (by decide) _))).seq (.otherwise ?_ .empty))
  simp [hcall, hdimensions, hpoint]

/-- The call of a method of a variable. -/
theorem takes_call {method : String} (hname : IsIdentifier name) (hmethod : IsIdentifier method)
    (h : Takes k arguments (.separator '(' :: ts) rest) :
    Takes k primary
      (.ofWord name :: .separator '.' :: .ofWord method :: .separator '(' :: ts) rest := by
  have hlook : Ahead.all [.word ".", .kind .identifier]
      (.separator '.' :: .ofWord method :: .separator '(' :: ts) = true := by
    simp [Ahead.all, TokenTest.holds, hmethod.kind_ofWord, Token.separator]
  have hselect : Takes k (.word "." ++ .identifier)
      (.separator '.' :: .ofWord method :: .separator '(' :: ts) (.separator '(' :: ts) :=
    (Takes.word rfl).seq (.identifier hmethod.2)
  refine takes_primary_name hname (((Takes.identifier hname.2).seq (.repeated_cons hlook hselect
    (by simp) (.repeated_nil rfl))).seq (.option 1 rfl rfl rfl h))

/-- The selection of a field. -/
theorem takes_selector_field (hname : IsIdentifier name) (hends : Avoids ["("] ts) :
    Takes k selector (.separator '.' :: .ofWord name :: ts) ts :=
  .no rfl ((Takes.word rfl).seq (.option 0 rfl ((hname.kind_eq _).trans rfl) rfl
    ((Takes.identifier hname.2).seq (.ifAhead_no (hends.word_eq_false List.mem_cons_self)))))

/-- The call of a method of what was selected before. -/
theorem takes_selector_call (hname : IsIdentifier name)
    (h : Takes k arguments (.separator '(' :: ts) rest) :
    Takes k selector (.separator '.' :: .ofWord name :: .separator '(' :: ts) rest :=
  .no rfl ((Takes.word rfl).seq (.option 0 rfl ((hname.kind_eq _).trans rfl) rfl
    ((Takes.identifier hname.2).seq (.yes rfl h))))

theorem takes_noArguments : Takes k arguments (.separator '(' :: .separator ')' :: ts) ts :=
  ((Takes.word rfl).seq (.yes rfl .empty)).seq (.word rfl)

theorem takes_oneArgument (hhead : Avoids [")"] ts)
    (h : Takes k (.call .expression) ts (.separator ')' :: rest)) :
    Takes k arguments (.separator '(' :: ts) rest :=
  ((Takes.word rfl).seq (.no (hhead.word_eq_false List.mem_cons_self) (.separated_one h rfl))).seq
    (.word rfl)

/-! ### New objects -/

/-- A part of the name of a new object. -/
def createdPart : JavaRule :=
  .identifier ++ .ifWord "<" (orDiamond typeArguments)

/-- The parts of a name are taken one by one; behind the last one there may be brackets. -/
theorem takes_createdParts (hname : IsIdentifier name) (hmore : ∀ m ∈ more, IsIdentifier m)
    (htail : Takes k (.ifWord "<" (orDiamond typeArguments)) mid rest)
    (hshorter : rest.length ≤ mid.length) (hrest : Avoids ["."] rest) :
    ∃ ts, Takes k createdPart (.ofWord name :: (pointTokens more ++ mid)) ts ∧
      Takes k (.repeated (.word ".") (.word "." ++ createdPart)) ts rest ∧
        ts.length ≤ (pointTokens more ++ mid).length := by
  induction more generalizing name with
  | nil =>
    exact ⟨rest, (Takes.identifier hname.2).seq htail,
      .repeated_nil (hrest.word_eq_false List.mem_cons_self), hshorter⟩
  | cons next more ih =>
    rw [List.forall_mem_cons] at hmore
    obtain ⟨ts, hpart, hparts, hlength⟩ := ih hmore.1 hmore.2
    refine ⟨pointTokens (next :: more) ++ mid, (Takes.identifier hname.2).seq (.ifAhead_no rfl),
      .repeated_cons rfl ((Takes.word rfl).seq hpart) ?_ hparts, Nat.le_refl _⟩
    simp only [pointTokens, List.cons_append, List.length_cons]
    omega

theorem takes_createdName (hname : IsIdentifier name) (hmore : ∀ m ∈ more, IsIdentifier m)
    (htail : Takes k (.ifWord "<" (orDiamond typeArguments)) mid rest)
    (hshorter : rest.length ≤ mid.length) (hrest : Avoids ["."] rest) :
    Takes k createdName (.ofWord name :: (pointTokens more ++ mid)) rest := by
  obtain ⟨ts, hpart, hparts, -⟩ := takes_createdParts hname hmore htail hshorter hrest
  exact hpart.seq hparts

theorem takes_new_of_createdName (hname : IsIdentifier name)
    (h : Takes k createdName (.ofWord name :: ts) (.separator '(' :: .separator ')' :: rest))
    (hrest : Avoids [r"{"] rest) :
    Takes k primary (.ofWord "new" :: .ofWord name :: ts) rest := by
  have hbasic : Ahead.kind .basicType (.ofWord name :: ts) = false := hname.kind_eq _
  have hgeneric : Ahead.word "<" (.ofWord name :: ts) = false :=
    hname.avoids.word_eq_false (by decide)
  refine .option 5 rfl rfl rfl ((Takes.word rfl).seq (.otherwise ?_ (h.seq (.no rfl
    (takes_noArguments.seq (.ifAhead_no (hrest.word_eq_false List.mem_cons_self)))))))
  simp [hbasic, hgeneric]

/-- A new object of a class without type arguments. -/
theorem takes_new (hname : IsIdentifier name) (hmore : ∀ m ∈ more, IsIdentifier m)
    (hrest : Avoids [r"{"] rest) :
    Takes k primary (.ofWord "new" :: .ofWord name ::
      (pointTokens more ++ .separator '(' :: .separator ')' :: rest)) rest :=
  takes_new_of_createdName hname
    (takes_createdName hname hmore (.ifAhead_no rfl) (Nat.le_refl _) (.cons (by decide))) hrest

/-- A new object whose type arguments are left open. -/
theorem takes_new_diamond (hname : IsIdentifier name) (hmore : ∀ m ∈ more, IsIdentifier m)
    (hrest : Avoids [r"{"] rest) :
    Takes k primary (.ofWord "new" :: .ofWord name :: (pointTokens more ++
      ⟨.operator, "<"⟩ :: ⟨.operator, ">"⟩ :: .separator '(' :: .separator ')' :: rest)) rest :=
  takes_new_of_createdName hname
    (takes_createdName hname hmore (.yes rfl (.yes rfl ((Takes.word rfl).seq
      ((Takes.word rfl).seq .empty)))) (by simp) (.cons (by decide))) hrest

/-! ## Statements -/

section Statements

variable {field item method : String} {t : Token}

/-- A name is an expression. -/
theorem takes_nameExpression (hname : IsIdentifier name)
    (hends : Avoids expressionContinuations ts) :
    Takes 3 (.call .expression) (.ofWord name :: ts) ts :=
  takes_expression
    (takes_primary (k := 0) (takes_name hname (hends.mono (by decide))) (hends.mono (by decide)))
    (hname.avoids.mono (by decide)) hends

theorem annotationAhead_eq_false (hat : t.kind ≠ .at) : annotationAhead (t :: ts) = false := by
  cases ts <;> simp [annotationAhead, hat]

/-- The words that begin the declaration of a type. -/
def typeWords : List String :=
  ["class", "enum", "interface", "@"]

/-- What is neither a modifier nor an annotation nor a type begins as its kind tells. -/
theorem opensAs_eq (hmodifier : t.kind ≠ .modifier) (hat : t.kind ≠ .at)
    (hbasic : t.kind ≠ .basicType) (hwords : t.text ∉ typeWords) (o : Opening) :
    opensAs o (t :: ts) = decide ((if t.kind = .identifier then .open else .statement) = o) := by
  have hunmarked : annotationAhead (t :: ts) = false := annotationAhead_eq_false hat
  have hbegin : Avoids typeWords (t :: ts) := .cons hwords
  have hdeclares : Ahead.oneOf ["class", "enum", "interface"] (t :: ts) = false :=
    hbegin.oneOf_eq_false (by decide)
  have hmark : annotationTypeAhead (t :: ts) = false := hbegin.words_eq_false (by decide) _
  have htype : typeWordAhead (t :: ts) = false := by
    rw [typeWordAhead, Ahead.or, hdeclares, hmark, Bool.or_false]
  rw [opensAs, List.length_cons, opening, if_neg hmodifier, if_neg (by simp [hunmarked]),
    if_neg (by simp [htype, hat]), if_neg (by simp [hbasic])]

/-- A keyword that declares nothing begins a statement. -/
theorem takes_keywordStatement (hkind : t.kind = .keyword) (hwords : t.text ∉ typeWords)
    (hnone : t.text ≠ "synchronized") (h : Takes k (.call .statement) (t :: ts) rest) :
    Takes k blockStatement (t :: ts) rest := by
  have hopens : ∀ o, opensAs o (t :: ts) = decide (Opening.statement = o) := by
    intro o
    rw [opensAs_eq (by simp [hkind]) (by simp [hkind]) (by simp [hkind]) hwords, if_neg]
    simp [hkind]
  refine .option 4 rfl (hopens _) ?_ h
  simp [hopens, labelAhead, Ahead.word, Ahead.all, TokenTest.holds, hkind, hnone]

/-- A statement that is an expression and begins with `this`. -/
theorem takes_statement_this
    (h : Takes k (.call .expression) (.ofWord "this" :: ts) (.separator ';' :: rest)) :
    Takes (k + 1) blockStatement (.ofWord "this" :: ts) rest :=
  takes_keywordStatement (by decide) (by decide) (by decide)
    (.call (.otherwise rfl (h.seq (.word rfl))))

/-- The call of a method of a field. -/
theorem takes_fieldCall (hfield : IsIdentifier field) (hmethod : IsIdentifier method)
    (hitem : IsIdentifier item) :
    Takes 7 blockStatement
      (.ofWord "this" :: .separator '.' :: .ofWord field :: .separator '.' :: .ofWord method ::
        .separator '(' :: .ofWord item :: .separator ')' :: .separator ';' :: rest) rest := by
  have hargument : Takes 3 arguments
      (.separator '(' :: .ofWord item :: .separator ')' :: .separator ';' :: rest)
      (.separator ';' :: rest) :=
    takes_oneArgument (hitem.avoids.mono (by decide))
      (takes_nameExpression hitem (.cons (by decide)))
  refine takes_statement_this (takes_expression (takes_selected (takes_this (.cons (by decide)))
    (.repeated_cons rfl (takes_selector_field hfield (.cons (by decide))) (by simp)
      (.repeated_cons rfl (takes_selector_call hmethod hargument) (by simp) (.repeated_nil rfl)))
    (.cons (by decide))) (.cons (by decide)) (.cons (by decide)))

/-- The assignment of a variable to a field. -/
theorem takes_fieldAssignment (hfield : IsIdentifier field) (hitem : IsIdentifier item) :
    Takes 7 blockStatement
      (.ofWord "this" :: .separator '.' :: .ofWord field :: ⟨.operator, "="⟩ :: .ofWord item ::
        .separator ';' :: rest) rest := by
  have hvalue : Takes 5 (.call .expression) (.ofWord item :: .separator ';' :: rest)
      (.separator ';' :: rest) :=
    (takes_nameExpression hitem (.cons (by decide))).mono (by decide)
  refine takes_statement_this (takes_assignment (k := 3) (takes_selected
    (takes_this (.cons (by decide)))
    (.repeated_cons rfl (takes_selector_field hfield (.cons (by decide))) (by simp)
      (.repeated_nil rfl)) (.cons (by decide))) (.cons (by decide)) hvalue (by decide))

/-- The answer with the value of an expression. -/
theorem takes_return (hhead : Avoids [";"] ts)
    (h : Takes k (.call .expression) ts (.separator ';' :: rest)) :
    Takes (k + 1) blockStatement (.ofWord "return" :: ts) rest :=
  takes_keywordStatement (by decide) (by decide) (by decide)
    (.call (.option 11 rfl rfl rfl (((Takes.word rfl).seq
      (.no (hhead.word_eq_false List.mem_cons_self) h)).seq (.word rfl))))

theorem takes_returnThis :
    Takes 7 blockStatement (.ofWord "return" :: .ofWord "this" :: .separator ';' :: rest) rest :=
  (takes_return (.cons (by decide)) (takes_expression
    (takes_primary (k := 3) (takes_this (.cons (by decide))) (.cons (by decide)))
    (.cons (by decide)) (.cons (by decide))))

theorem takes_returnName (hitem : IsIdentifier item) :
    Takes 7 blockStatement (.ofWord "return" :: .ofWord item :: .separator ';' :: rest) rest :=
  (takes_return (hitem.avoids.mono (by decide))
    (takes_nameExpression hitem (.cons (by decide)))).mono (by decide)

/-- The answer with a new object. -/
theorem takes_returnNew (hname : IsIdentifier name) (hmore : ∀ m ∈ more, IsIdentifier m) :
    Takes 7 blockStatement (.ofWord "return" :: .ofWord "new" :: .ofWord name ::
      (pointTokens more ++ .separator '(' :: .separator ')' :: .separator ';' :: rest)) rest :=
  takes_return (.cons (by decide)) (takes_expression
    (takes_primary (k := 3) (takes_new hname hmore (.cons (by decide))) (.cons (by decide)))
    (.cons (by decide)) (.cons (by decide)))

theorem labelAhead_eq_false (hlabel : Avoids [":"] ts) : labelAhead (t :: ts) = false := by
  have hcolon : Ahead.all [.word ":"] ts = false := hlabel.all_eq_false List.mem_cons_self []
  rw [labelAhead, Ahead.all, hcolon, Bool.and_false]

/-- What begins with a name is tried as a variable first. -/
theorem takes_openStatement (hname : IsIdentifier name) (hlabel : Avoids [":"] ts)
    (h : Takes k (.orElse localVariables (.call .statement)) (.ofWord name :: ts) rest) :
    Takes k blockStatement (.ofWord name :: ts) rest := by
  have hkind := hname.kind_ofWord
  have hsub : typeWords ⊆ notNames := by decide
  have hwords : name ∉ typeWords := fun hmem => hname.not_mem_notNames (hsub hmem)
  have hopens : ∀ o, opensAs o (.ofWord name :: ts) = decide (Opening.open = o) := by
    intro o
    rw [opensAs_eq (by simp [hkind]) (by simp [hkind]) (by simp [hkind]) hwords, if_pos hkind]
  have hsynchronized : Ahead.word "synchronized" (.ofWord name :: ts) = false :=
    hname.avoids.word_eq_false (by decide)
  exact .otherwise (by simp [hopens, hsynchronized, labelAhead_eq_false hlabel]) h

theorem variableModifier_eq_false (hfinal : t.text ≠ "final") (hat : t.kind ≠ .at) :
    Ahead.or (.word "final") annotationAhead (t :: ts) = false := by
  rw [Ahead.or, annotationAhead_eq_false hat, Bool.or_false]
  simp [Ahead.word, Ahead.all, TokenTest.holds, hfinal]

/-- A name is no modifier of a variable. -/
theorem variableModifier_ofWord (hname : IsIdentifier name) :
    Ahead.or (.word "final") annotationAhead (.ofWord name :: ts) = false := by
  refine variableModifier_eq_false (fun hfinal => hname.not_mem_notNames ?_) ?_
  · rw [show name = "final" from hfinal]
    decide
  · rw [hname.kind_ofWord]
    exact nofun

theorem takes_dimensions (hends : Avoids ["["] ts) : Takes k dimensions ts ts :=
  .skip (congrArg (fun r => some r.2) (readDimensions_tokens (hends.ne List.mem_cons_self) 0))

/-- Names with points are read as a type. -/
theorem readType?_ofNames (hname : IsIdentifier name) (more : List String)
    (hmore : ∀ m ∈ more, IsIdentifier m) (hends : NoMoreType rest) :
    readType? (.ofWord name :: (pointTokens more ++ rest)) =
      some (.named (.ofNames name more) 0, rest) := by
  have htokens : (JavaType.named (.ofNames name more) 0).tokens =
      .ofWord name :: pointTokens more := by
    rw [JavaType.tokens, TypePath.tokens_ofNames, dimensionTokens, List.append_nil]
  have hreadable : (JavaType.named (.ofNames name more) 0).Readable :=
    TypePath.readable_ofNames hname hmore
  rw [← List.cons_append, ← htokens, readType?_tokens hreadable hends]

/-- A local variable with a new object. -/
theorem takes_newVariable (hname : IsIdentifier name) (hmore : ∀ m ∈ more, IsIdentifier m)
    (hitem : IsIdentifier item) :
    Takes 7 blockStatement (.ofWord name :: (pointTokens more ++ .ofWord item ::
      ⟨.operator, "="⟩ :: .ofWord "new" :: .ofWord name :: (pointTokens more ++
        .separator '(' :: .separator ')' :: .separator ';' :: rest))) rest := by
  have hvalue : Takes 6 (.call .expression) (.ofWord "new" :: .ofWord name ::
      (pointTokens more ++ .separator '(' :: .separator ')' :: .separator ';' :: rest))
      (.separator ';' :: rest) :=
    takes_expression (takes_primary (k := 3) (takes_new hname hmore (.cons (by decide)))
      (.cons (by decide))) (.cons (by decide)) (.cons (by decide))
  have hinitial : Takes 7 (.call .initializer) (.ofWord "new" :: .ofWord name ::
      (pointTokens more ++ .separator '(' :: .separator ')' :: .separator ';' :: rest))
      (.separator ';' :: rest) :=
    Takes.call (show Takes 6 initializer _ _ from .no rfl hvalue)
  have hlabel : ∀ ts, Avoids [":"] (pointTokens more ++ .ofWord item :: ts) := by
    intro ts
    cases more with
    | nil => exact hitem.avoids.mono (by decide)
    | cons m more => exact .cons (by decide)
  have htype : ∀ ts, Takes 7 type (.ofWord name :: (pointTokens more ++ .ofWord item :: ts))
      (.ofWord item :: ts) := by
    intro ts
    refine .skip ?_
    rw [readType?_ofNames hname more hmore (hitem.avoids.mono (by decide))]
    rfl
  refine takes_openStatement hname (hlabel _) (.first ((((Takes.repeated_nil
    (variableModifier_ofWord hname)).seq (htype _)).seq (.separated_one
      ((Takes.identifier hitem.2).seq ((takes_dimensions (.cons (by decide))).seq
        (.yes rfl ((Takes.word rfl).seq hinitial)))) rfl)).seq (.word rfl)))

/-- The call of a method of a variable, with a field as its argument.  It is tried as a variable
first, and refused at its bracket. -/
theorem takes_variableCall (hname : IsIdentifier name) (hmethod : IsIdentifier method)
    (hfield : IsIdentifier field) :
    Takes 7 blockStatement (.ofWord name :: .separator '.' :: .ofWord method :: .separator '(' ::
      .ofWord field :: .separator ')' :: .separator ';' :: rest) rest := by
  have hcall : Takes 6 (.call .expression) (.ofWord name :: .separator '.' :: .ofWord method ::
      .separator '(' :: .ofWord field :: .separator ')' :: .separator ';' :: rest)
      (.separator ';' :: rest) :=
    takes_expression (takes_primary (takes_call hname hmethod (takes_oneArgument
      (hfield.avoids.mono (by decide)) (takes_nameExpression hfield (.cons (by decide)))))
      (.cons (by decide))) (hname.avoids.mono (by decide)) (.cons (by decide))
  have hstatement : Takes 7 (.call .statement) (.ofWord name :: .separator '.' ::
      .ofWord method :: .separator '(' :: .ofWord field :: .separator ')' :: .separator ';' :: rest)
      rest := by
    have hword : ∀ w ∈ notNames, ∀ ts, Ahead.word w (.ofWord name :: ts) = false :=
      fun w hw ts => hname.avoids.word_eq_false hw
    refine .call (.otherwise ?_ (hcall.seq (.word rfl)))
    have hlabelled : ∀ ts, labelAhead (.ofWord name :: .separator '.' :: ts) = false :=
      fun _ => labelAhead_eq_false (.cons (by decide))
    simp (disch := decide) [hword, hlabelled]
  refine takes_openStatement hname (.cons (by decide)) (.second ?_ hstatement)
  intro n _
  have htype : readType? (.ofWord name :: .separator '.' :: .ofWord method :: .separator '(' ::
      .ofWord field :: .separator ')' :: .separator ';' :: rest) =
        some (.named (.ofNames name [method]) 0, .separator '(' :: .ofWord field ::
          .separator ')' :: .separator ';' :: rest) :=
    readType?_ofNames hname [method] (by simpa using hmethod) (Avoids.cons (by decide))
  have hmodifiers : ∀ ts, variableModifiers.run (follow n) (.start (.ofWord name :: ts)) =
      .ok (.start (.ofWord name :: ts)) := fun ts =>
    if_neg (by
      rw [Course.start, variableModifier_ofWord hname]
      exact Bool.false_ne_true)
  change ((((variableModifiers.run (follow n) _).bind (type.run (follow n))).bind
    ((separated "," declarator).run (follow n))).bind ((word ";").run (follow n))) = _
  rw [hmodifiers]
  change (((Course.behind _ ((readType? _).map Prod.snd)).bind _).bind _) = _
  rw [Course.start, htype]
  rfl

/-- The tokens of a statement: it is taken whatever follows it, and it is no closing brace. -/
structure IsStatement (s : List Token) : Prop where
  begins : ∃ t w, s = t :: w ∧ t.text ≠ r"}"
  takes : ∀ rest, Takes 7 blockStatement (s ++ rest) rest

/-- **Statements in braces are a block.** -/
theorem takes_block {statements : List (List Token)} (h : ∀ s ∈ statements, IsStatement s) :
    Takes 8 (.call .block) (.separator '{' :: (statements.flatten ++ .separator '}' :: rest))
      rest := by
  have hstatements : Takes 7 (.repeated (Ahead.word r"}").no blockStatement)
      (statements.flatten ++ .separator '}' :: rest) (.separator '}' :: rest) := by
    induction statements with
    | nil => exact .repeated_nil rfl
    | cons s more ih =>
      rw [List.forall_mem_cons] at h
      obtain ⟨t, w, rfl, ht⟩ := h.1.begins
      rw [List.flatten_cons, List.append_assoc]
      refine .repeated_cons ?_ (h.1.takes _) ?_ (ih h.2)
      · simp [Ahead.no, Ahead.word, Ahead.all, TokenTest.holds, ht]
      · simp only [List.length_append, List.length_cons]
        omega
  exact .call ((Takes.word rfl).seq (hstatements.seq (.word rfl)))

/-- A method without exceptions has a body. -/
theorem takes_body {statements : List (List Token)} (h : ∀ s ∈ statements, IsStatement s) :
    Takes 8 (throwsList ++ bodyOrNone)
      (.separator '{' :: (statements.flatten ++ .separator '}' :: rest)) rest :=
  (Takes.ifAhead_no rfl).seq (.yes rfl (takes_block h))

/-- A field without an initial value. -/
theorem takes_field : Takes k (fieldsRest ++ .word ";") (.separator ';' :: rest) rest :=
  ((((takes_dimensions (.cons (by decide))).seq (.ifAhead_no rfl)).seq (.repeated_nil rfl)).seq
    (.word rfl))

/-- A field with an initial value. -/
theorem takes_field_of_value (hhead : Avoids [r"{"] ts)
    (h : Takes k (.call .expression) ts (.separator ';' :: rest)) :
    Takes (k + 1) (fieldsRest ++ .word ";") (⟨.operator, "="⟩ :: ts) rest := by
  have hinitial : Takes (k + 1) (.call .initializer) ts (.separator ';' :: rest) :=
    Takes.call (show Takes k initializer _ _ from .no (hhead.word_eq_false List.mem_cons_self) h)
  exact ((((takes_dimensions (.cons (by decide))).seq (.yes rfl ((Takes.word rfl).seq
    hinitial))).seq (.repeated_nil rfl)).seq (.word rfl))

end Statements

end Grammar
end Java
end BeanBuilder
