import BeanBuilder.Java.SourceFile
import Mathlib.Data.List.Basic
import Mathlib.Tactic.SplitIfs

/-! # What readers make of tokens

A reader gets what it finds from the tokens, and leaves some of them.  `Gives Q read good` says this
of any property `Q` of tokens: from tokens that have it, only what is `good` is read, and what is
left has it still.

Which properties types have when their names come from such tokens is told by `TypeProperty`, one
condition for each way to put a type together; the readers of types then give only such types
(`TypeProperty.gives_readType?`).  The rules of the grammar read nothing, but they too leave only
tokens that they were given (`Grammar.within_of_course?`).
-/
namespace BeanBuilder
namespace Java

/-! ## Readers -/

section Gives

variable {Q : Token → Prop} {α : Type}

/-- From tokens with a property, a reader gets only what is good, and it leaves such tokens. -/
def Gives (Q : Token → Prop) (read : List Token → Option (α × List Token)) (good : α → Prop) :
    Prop :=
  ∀ ⦃ts : List Token⦄ ⦃a : α⦄ ⦃rest : List Token⦄, (∀ t ∈ ts, Q t) → read ts = some (a, rest) →
    good a ∧ ∀ t ∈ rest, Q t

theorem Gives.imp {read : List Token → Option (α × List Token)} {good good' : α → Prop}
    (h : Gives Q read good) (himp : ∀ a, good a → good' a) : Gives Q read good' :=
  fun _ _ _ hts hread => (h hts hread).imp_left (himp _)

theorem subset_of_afterText? {text : String} {ts rest : List Token}
    (h : afterText? text ts = some rest) : rest ⊆ ts := by
  cases ts with
  | nil => exact nomatch h
  | cons t more =>
    rw [afterText?] at h
    split_ifs at h
    exact Option.some.inj h ▸ List.subset_cons_self t more

theorem subset_readDimensions (ts : List Token) : (readDimensions ts).2 ⊆ ts := by
  fun_induction readDimensions ts with
  | case1 a b rest _ n rest' heq ih =>
    rw [heq] at ih
    exact List.Subset.trans ih
      (List.Subset.trans (List.subset_cons_self b rest) (List.subset_cons_self a _))
  | case2 => exact List.Subset.refl _
  | case3 => exact List.Subset.refl _

theorem exists_of_textOf? {kind : TokenKind} {text : String} {ts rest : List Token}
    (h : textOf? kind ts = some (text, rest)) :
    ∃ t, ts = t :: rest ∧ t.kind = kind ∧ t.text = text := by
  cases ts with
  | nil => exact nomatch h
  | cons t more =>
    rw [textOf?] at h
    split_ifs at h with ht
    obtain ⟨rfl, rfl⟩ := Prod.mk.inj (Option.some.inj h)
    exact ⟨t, rfl, ht, rfl⟩

theorem gives_textOf? (kind : TokenKind) :
    Gives Q (textOf? kind) fun text => ∃ t, Q t ∧ t.kind = kind ∧ t.text = text := by
  intro ts text rest hts h
  obtain ⟨t, rfl, hkind, htext⟩ := exists_of_textOf? h
  rw [List.forall_mem_cons] at hts
  exact ⟨⟨t, hts.1, hkind, htext⟩, hts.2⟩

end Gives

/-! ## Types -/

/-- Properties of types and their parts that hold when the names come from tokens with a
property. -/
structure TypeProperty (Q : Token → Prop) where
  path : TypePath → Prop
  arguments : List TypeArgument → Prop
  argument : TypeArgument → Prop
  reference : JavaType → Prop
  last : ∀ {t : Token} {as : List TypeArgument}, Q t → t.kind = .identifier → arguments as →
    path (.last t.text as)
  outer : ∀ {t : Token} {as : List TypeArgument} {inner : TypePath}, Q t → t.kind = .identifier →
    arguments as → path inner → path (.outer t.text as inner)
  nil : arguments []
  cons : ∀ {a : TypeArgument} {as : List TypeArgument}, argument a → arguments as →
    arguments (a :: as)
  any : argument .any
  exact : ∀ {type : JavaType}, reference type → argument (.exact type)
  upper : ∀ {type : JavaType}, reference type → argument (.upper type)
  lower : ∀ {type : JavaType}, reference type → argument (.lower type)
  array : ∀ {t : Token} {n : Nat}, Q t → t.kind = .basicType → n ≠ 0 → reference (.basic t.text n)
  named : ∀ {p : TypePath} {n : Nat}, path p → reference (.named p n)

namespace TypeProperty

variable {Q : Token → Prop} (P : TypeProperty Q) {calls : Nat}

/-- The readers of types give only what has the property. -/
structure Given (calls : Nat) : Prop where
  path : Gives Q (readPath? calls) P.path
  arguments : Gives Q (readArguments? calls) P.arguments
  argument : Gives Q (readArgument? calls) P.argument
  reference : Gives Q (readReference? calls) P.reference

variable {P}

/-- Behind a segment with its arguments a point tells whether the path goes on. -/
theorem Given.path_behind (ih : P.Given calls) {t : Token} (ht : Q t) (hkind : t.kind = .identifier)
    {as : List TypeArgument} {ts rest : List Token} {path : TypePath} (has : P.arguments as)
    (hts : ∀ t ∈ ts, Q t)
    (h : (match afterText? "." ts with
      | some ts => (readPath? calls ts).bind fun r => some (TypePath.outer t.text as r.1, r.2)
      | none => some (TypePath.last t.text as, ts)) = some (path, rest)) :
    P.path path ∧ ∀ t ∈ rest, Q t := by
  split at h
  · rename_i ts₁ hpoint
    obtain ⟨⟨inner, ts₂⟩, hread, h⟩ := Option.bind_eq_some_iff.mp h
    obtain ⟨rfl, rfl⟩ := Prod.mk.inj (Option.some.inj h)
    obtain ⟨hinner, hrest⟩ := ih.path (fun t ht => hts t (subset_of_afterText? hpoint ht)) hread
    exact ⟨P.outer ht hkind has hinner, hrest⟩
  · obtain ⟨rfl, rfl⟩ := Prod.mk.inj (Option.some.inj h)
    exact ⟨P.last ht hkind has, hts⟩

theorem Given.path_succ (ih : P.Given calls) : Gives Q (readPath? (calls + 1)) P.path := by
  intro ts path rest hts h
  rw [readPath?] at h
  obtain ⟨⟨name, ts₁⟩, hname, h⟩ := Option.bind_eq_some_iff.mp h
  obtain ⟨⟨t, ht, hkind, rfl⟩, hts₁⟩ := gives_textOf? _ hts hname
  simp only at h
  split at h
  · rename_i hopen
    obtain ⟨⟨as, ts₂⟩, has, h⟩ := Option.bind_eq_some_iff.mp h
    obtain ⟨hgood, hts₂⟩ :=
      ih.arguments (fun t ht => hts₁ t (subset_of_afterText? hopen ht)) has
    exact ih.path_behind ht hkind hgood hts₂ h
  · rw [pure_bind] at h
    exact ih.path_behind ht hkind P.nil hts₁ h

theorem Given.arguments_succ (ih : P.Given calls) :
    Gives Q (readArguments? (calls + 1)) P.arguments := by
  intro ts as rest hts h
  rw [readArguments?] at h
  obtain ⟨⟨a, ts₁⟩, hargument, h⟩ := Option.bind_eq_some_iff.mp h
  obtain ⟨hgood, hts₁⟩ := ih.argument hts hargument
  simp only at h
  split at h
  · rename_i hclose
    obtain ⟨rfl, rfl⟩ := Prod.mk.inj (Option.some.inj h)
    exact ⟨P.cons hgood P.nil, fun t ht => hts₁ t (subset_of_afterText? hclose ht)⟩
  · obtain ⟨ts₂, hcomma, h⟩ := Option.bind_eq_some_iff.mp h
    obtain ⟨⟨further, ts₃⟩, hfurther, h⟩ := Option.bind_eq_some_iff.mp h
    obtain ⟨rfl, rfl⟩ := Prod.mk.inj (Option.some.inj h)
    obtain ⟨hmore, hrest⟩ :=
      ih.arguments (fun t ht => hts₁ t (subset_of_afterText? hcomma ht)) hfurther
    exact ⟨P.cons hgood hmore, hrest⟩

theorem Given.argument_succ (ih : P.Given calls) :
    Gives Q (readArgument? (calls + 1)) P.argument := by
  intro ts a rest hts h
  have hof : ∀ {ts' : List Token} (make : JavaType → TypeArgument), ts' ⊆ ts →
      (∀ {type : JavaType}, P.reference type → P.argument (make type)) →
      (readReference? calls ts').map (fun r => (make r.1, r.2)) = some (a, rest) →
        P.argument a ∧ ∀ t ∈ rest, Q t := by
    intro ts' make hsub hmake hmap
    obtain ⟨⟨type, ts''⟩, htype, heq⟩ := Option.map_eq_some_iff.mp hmap
    obtain ⟨rfl, rfl⟩ := Prod.mk.inj heq
    exact (ih.reference (fun t ht => hts t (hsub ht)) htype).imp_left hmake
  rw [readArgument?] at h
  split at h
  · exact hof .exact (List.Subset.refl _) P.exact h
  · rename_i ts₁ hmark
    have hsub := subset_of_afterText? hmark
    split at h
    · rename_i hextends
      exact hof .upper (List.Subset.trans (subset_of_afterText? hextends) hsub) P.upper h
    · rename_i hsuper _
      exact hof .lower (List.Subset.trans (subset_of_afterText? hsuper) hsub) P.lower h
    · obtain ⟨rfl, rfl⟩ := Prod.mk.inj (Option.some.inj h)
      exact ⟨P.any, fun t ht => hts t (hsub ht)⟩

theorem Given.reference_succ (ih : P.Given calls) :
    Gives Q (readReference? (calls + 1)) P.reference := by
  intro ts type rest hts h
  rw [readReference?] at h
  split at h
  · rename_i name ts₁ hname
    obtain ⟨⟨t, ht, hkind, rfl⟩, hts₁⟩ := gives_textOf? _ hts hname
    simp only at h
    split_ifs at h with hn
    obtain ⟨rfl, rfl⟩ := Prod.mk.inj (Option.some.inj h)
    exact ⟨P.array ht hkind hn, fun t ht => hts₁ t (subset_readDimensions ts₁ ht)⟩
  · obtain ⟨⟨path, ts₁⟩, hpath, h⟩ := Option.bind_eq_some_iff.mp h
    obtain ⟨rfl, rfl⟩ := Prod.mk.inj (Option.some.inj h)
    obtain ⟨hgood, hts₁⟩ := ih.path hts hpath
    exact ⟨P.named hgood, fun t ht => hts₁ t (subset_readDimensions ts₁ ht)⟩

variable (P)

theorem given (calls : Nat) : P.Given calls := by
  induction calls with
  | zero => exact ⟨nofun, nofun, nofun, nofun⟩
  | succ calls ih => exact ⟨ih.path_succ, ih.arguments_succ, ih.argument_succ, ih.reference_succ⟩

/-- **A type that is read** has the property, or is a single value of a basic type. -/
theorem gives_readType? :
    Gives Q readType? fun type => P.reference type ∨
      ∃ t n, Q t ∧ t.kind = .basicType ∧ type = .basic t.text n := by
  intro ts type rest hts h
  rw [readType?] at h
  split at h
  · rename_i name ts₁ hname
    obtain ⟨⟨t, ht, hkind, rfl⟩, hts₁⟩ := gives_textOf? _ hts hname
    obtain ⟨rfl, rfl⟩ := Prod.mk.inj (Option.some.inj h)
    exact ⟨Or.inr ⟨t, _, ht, hkind, rfl⟩, fun t ht => hts₁ t (subset_readDimensions ts₁ ht)⟩
  · exact ((P.given _).reference hts h).imp_left Or.inl

end TypeProperty

/-! ## Rules -/

/-- A course among some tokens: those that are left, and those at which reading would begin
again. -/
structure Course.Within (ts : List Token) (c : Course) : Prop where
  rest : c.rest ⊆ ts
  back : c.back ⊆ ts

/-- A step stays among the tokens that its course was among. -/
structure Step.Stays (step : Step) : Prop where
  further : ∀ {ts : List Token} {c d : Course}, c.Within ts → step c = .ok d → d.Within ts
  again : ∀ {ts again : List Token} {c : Course}, c.Within ts → step c = .error again → again ⊆ ts

namespace Step.Stays

variable {first second : Step}

theorem of_behind {read : List Token → Option (List Token)}
    (h : ∀ {ts rest : List Token}, read ts = some rest → rest ⊆ ts) :
    Step.Stays fun c => c.behind (read c.rest) where
  further := by
    intro ts c d hc heq
    cases hread : read c.rest with
    | none =>
      rw [hread] at heq
      exact nomatch heq
    | some rest =>
      rw [hread] at heq
      obtain rfl := Except.ok.inj heq
      exact ⟨List.Subset.trans (h hread) hc.rest, hc.back⟩
  again := by
    intro ts again c hc heq
    cases hread : read c.rest with
    | none =>
      rw [hread] at heq
      exact Except.error.inj heq ▸ hc.back
    | some rest =>
      rw [hread] at heq
      exact nomatch heq

theorem bind (h₁ : first.Stays) (h₂ : second.Stays) :
    Step.Stays fun c => (first c).bind second where
  further := by
    intro ts c d hc heq
    cases hfirst : first c with
    | error again =>
      simp only [hfirst] at heq
      exact nomatch heq
    | ok c' =>
      simp only [hfirst] at heq
      exact h₂.further (h₁.further hc hfirst) heq
  again := by
    intro ts again c hc heq
    cases hfirst : first c with
    | error again' =>
      simp only [hfirst] at heq
      exact Except.error.inj heq ▸ h₁.again hc hfirst
    | ok c' =>
      simp only [hfirst] at heq
      exact h₂.again (h₁.further hc hfirst) heq

theorem ite {look : Ahead} (h₁ : first.Stays) (h₂ : second.Stays) :
    Step.Stays fun c => if look c.rest then first c else second c where
  further := by
    intro ts c d hc heq
    split_ifs at heq
    · exact h₁.further hc heq
    · exact h₂.further hc heq
  again := by
    intro ts again c hc heq
    split_ifs at heq
    · exact h₁.again hc heq
    · exact h₂.again hc heq

theorem done : Step.Stays .ok where
  further hc heq := Except.ok.inj heq ▸ hc
  again _ heq := nomatch heq

theorem refused : Step.Stays fun c => .error c.back where
  further _ heq := nomatch heq
  again hc heq := Except.error.inj heq ▸ hc.back

theorem orElse (h₁ : first.Stays) (h₂ : second.Stays) :
    Step.Stays fun c => match first (.start c.rest) with
      | .ok d => .ok d
      | .error again => second ⟨again, c.back⟩ where
  further := by
    intro ts c d hc heq
    have hstart : (Course.start c.rest).Within ts := ⟨hc.rest, hc.rest⟩
    split at heq
    · rename_i hfirst
      exact Except.ok.inj heq ▸ h₁.further hstart hfirst
    · rename_i hfirst
      exact h₂.further (c := ⟨_, c.back⟩) ⟨h₁.again hstart hfirst, hc.back⟩ heq
  again := by
    intro ts again c hc heq
    have hstart : (Course.start c.rest).Within ts := ⟨hc.rest, hc.rest⟩
    split at heq
    · exact nomatch heq
    · rename_i hfirst
      exact h₂.again (c := ⟨_, c.back⟩) ⟨h₁.again hstart hfirst, hc.back⟩ heq

theorem loop {look : Ahead} (h : first.Stays) (steps : Nat) :
    Step.Stays (Rule.loop look first steps) := by
  induction steps with
  | zero => exact refused
  | succ steps ih => exact ite (h.bind ih) done

end Step.Stays

namespace Rule

variable {P : Type}

/-- Whatever a rule passes over with a reader, the reader leaves only tokens that it was given. -/
def PassesOver : Rule P → Prop
  | seq first second => first.PassesOver ∧ second.PassesOver
  | choose _ yes no => yes.PassesOver ∧ no.PassesOver
  | orElse first second => first.PassesOver ∧ second.PassesOver
  | repeated _ body => body.PassesOver
  | skip read => ∀ ts rest, read ts = some rest → rest ⊆ ts
  | empty | never | take _ | any | call _ => True

section PassesOver

variable {first second : Rule P} {look : Ahead}

@[simp]
theorem passesOver_append : (first ++ second).PassesOver ↔ first.PassesOver ∧ second.PassesOver :=
  Iff.rfl

@[simp]
theorem passesOver_choose :
    (choose look first second).PassesOver ↔ first.PassesOver ∧ second.PassesOver :=
  Iff.rfl

@[simp]
theorem passesOver_orElse :
    (orElse first second).PassesOver ↔ first.PassesOver ∧ second.PassesOver :=
  Iff.rfl

@[simp]
theorem passesOver_repeated : (repeated look first).PassesOver ↔ first.PassesOver :=
  Iff.rfl

@[simp]
theorem passesOver_empty : (empty : Rule P).PassesOver :=
  trivial

@[simp]
theorem passesOver_never : (never : Rule P).PassesOver :=
  trivial

@[simp]
theorem passesOver_take (test : TokenTest) : (take test : Rule P).PassesOver :=
  trivial

@[simp]
theorem passesOver_any : (any : Rule P).PassesOver :=
  trivial

@[simp]
theorem passesOver_call (p : P) : (call p).PassesOver :=
  trivial

end PassesOver

/-- A rule stays among its tokens if the phrases do. -/
theorem PassesOver.stays_run {phrase : P → Step} (hphrase : ∀ p, (phrase p).Stays) :
    ∀ {r : Rule P}, r.PassesOver → Step.Stays (r.run phrase)
  | empty, _ => .done
  | never, _ => .refused
  | take test, _ => by
    refine ⟨fun {ts c d} hc heq => ?_, fun {ts again c} hc heq => ?_⟩
    · rw [run] at heq
      split at heq
      · rename_i t rest hrest
        split_ifs at heq
        obtain rfl := Except.ok.inj heq
        exact ⟨List.Subset.trans (List.subset_cons_self t rest) (hrest ▸ hc.rest), hc.back⟩
      · exact nomatch heq
    · rw [run] at heq
      split at heq
      · split_ifs at heq
        exact Except.error.inj heq ▸ hc.back
      · exact Except.error.inj heq ▸ hc.back
  | any, _ => .of_behind fun {ts rest} h => by
    cases ts with
    | nil => exact nomatch h
    | cons t more => exact Option.some.inj h ▸ List.subset_cons_self t more
  | seq first second, h => (stays_run hphrase h.1).bind (stays_run hphrase h.2)
  | choose look yes no, h => (stays_run hphrase h.1).ite (stays_run hphrase h.2)
  | orElse first second, h => (stays_run hphrase h.1).orElse (stays_run hphrase h.2)
  | repeated look body, h =>
    ⟨fun hc heq => ((stays_run hphrase (r := body) h).loop _).further hc heq,
      fun hc heq => ((stays_run hphrase (r := body) h).loop _).again hc heq⟩
  | skip read, h => .of_behind fun hread => h _ _ hread
  | call p, _ => hphrase p

end Rule

namespace Grammar

open Rule

/-- Types, whatever their names are. -/
def anyType (Q : Token → Prop) : TypeProperty Q where
  path _ := True
  arguments _ := True
  argument _ := True
  reference _ := True
  last _ _ _ := trivial
  outer _ _ _ _ := trivial
  nil := trivial
  cons _ _ := trivial
  any := trivial
  exact _ := trivial
  upper _ := trivial
  lower _ := trivial
  array _ _ _ := trivial
  named _ := trivial

/-- What a reader leaves, it was given. -/
theorem subset_of_gives {α : Type} {read : List Token → Option (α × List Token)} {good : α → Prop}
    {ts rest : List Token} (h : Gives (fun t => t ∈ ts) read good)
    (hread : (read ts).map Prod.snd = some rest) : rest ⊆ ts := by
  obtain ⟨⟨a, rest'⟩, hsome, heq⟩ := Option.map_eq_some_iff.mp hread
  obtain rfl : rest' = rest := heq
  exact fun t ht => (h (fun _ => id) hsome).2 t ht

theorem passesOver_type : type.PassesOver :=
  fun _ _ => subset_of_gives (anyType _).gives_readType?

theorem passesOver_referenceType : referenceType.PassesOver :=
  fun _ _ => subset_of_gives fun _ _ _ hts hread => ((anyType _).given _).reference hts hread

theorem passesOver_typePath : typePath.PassesOver :=
  fun _ _ => subset_of_gives fun _ _ _ hts hread => ((anyType _).given _).path hts hread

theorem passesOver_typeArguments : typeArguments.PassesOver := by
  intro ts rest
  have hgives : Gives (fun t => t ∈ ts) readTypeArguments? fun _ => True := by
    intro ts' as rest hts hread
    obtain ⟨opened, hopen, hread⟩ := Option.bind_eq_some_iff.mp hread
    have hopened : ∀ t ∈ opened, t ∈ ts := fun t ht => hts t (subset_of_afterText? hopen ht)
    exact ((anyType _).given _).arguments hopened hread
  exact subset_of_gives hgives

theorem passesOver_dimensions : dimensions.PassesOver :=
  fun ts _ hread => Option.some.inj hread ▸ subset_readDimensions ts

theorem passesOver_typeParameters : typeParameters.PassesOver := by
  simp [typeParameters, passesOver_typePath, Rule.word, identifier, ifWord, ifAhead, separated]

theorem passesOver_variableModifiers : variableModifiers.PassesOver := by
  simp [variableModifiers]

theorem passesOver_implementsList : implementsList.PassesOver := by
  simp [implementsList, typeList, passesOver_referenceType, Rule.word, ifWord, ifAhead, separated]

theorem passesOver_throwsList : throwsList.PassesOver := by
  simp [throwsList, qualified, Rule.word, identifier, ifWord, ifAhead, separated]

theorem passesOver_bodyOrNone : bodyOrNone.PassesOver := by
  simp [bodyOrNone, Rule.word]

theorem passesOver_fieldsRest : fieldsRest.PassesOver := by
  simp [fieldsRest, declarator, declaratorRest, passesOver_dimensions, Rule.word, identifier,
    ifWord, ifAhead]

theorem passesOver_member : member.PassesOver := by
  simp [member, memberRest, genericMember, modifiers, methodRest, voidMethodRest, constructorRest,
    parameters, firstOf, passesOver_type, passesOver_dimensions, passesOver_typeParameters,
    passesOver_throwsList, passesOver_bodyOrNone, passesOver_fieldsRest, Rule.word, identifier]

/-- The rule of every phrase: each is put together from words, calls and the readers of types. -/
theorem passesOver_rule (p : Phrase) : (rule p).PassesOver := by
  cases p <;>
    simp [rule, passesOver_type, passesOver_referenceType, passesOver_typePath,
      passesOver_typeArguments, passesOver_dimensions, Rule.word, Rule.words, identifier, ifAhead,
      ifWord, unlessWord, separated, untilWord, firstOf, qualified, typeList, plainArguments,
      passesOver_typeParameters, modifiers, passesOver_variableModifiers, annotationMark,
      elementValue, parametersRest, parameters, passesOver_throwsList, passesOver_bodyOrNone,
      methodRest, voidMethodRest, declaratorRest, declarator, constantsRest, passesOver_member,
      classBody, interfaceMember, annotationMember, enumConstant, enumBody,
      passesOver_implementsList, classHead, nestedType, typeDeclaration, localVariables,
      blockStatement, bracketed, expressions, loopRest, variableLoop, loopHead, caseLabel, cases,
      resource, resources, catchClause, finalBlock, guarded, statement, block, arrayInitializer,
      initializer, arguments, expression, infixSign, operands, functionBody, conditional,
      untypedParameters, function, cast, superRest, genericCallRest, objectRest, arrayRest,
      createdName, creation, innerCreation, nameRest, primary, selector, selected, operand,
      orDiamond, jump]

theorem stays_follow (calls : Nat) (p : Phrase) : (follow calls p).Stays := by
  induction calls generalizing p with
  | zero => exact .refused
  | succ calls ih => exact (passesOver_rule p).stays_run ih

/-- **What a rule leaves, it was given**, and so are the tokens at which reading begins again. -/
theorem within_of_course? {r : JavaRule} {ts : List Token} {c : Course} (hr : r.PassesOver)
    (h : course? r ts = some c) : c.Within ts := by
  rw [course?] at h
  cases hrun : r.run (follow (phraseCalls ts)) (.start ts) with
  | error again =>
    rw [hrun] at h
    exact nomatch h
  | ok d =>
    rw [hrun] at h
    obtain rfl := Option.some.inj h
    exact (hr.stays_run (stays_follow _)).further
      ⟨List.Subset.refl ts, List.Subset.refl ts⟩ hrun

theorem subset_of_after? {r : JavaRule} {ts rest : List Token} (hr : r.PassesOver)
    (h : after? r ts = some rest) : rest ⊆ ts := by
  obtain ⟨c, hc, rfl⟩ := Option.map_eq_some_iff.mp h
  exact (within_of_course? hr hc).rest

end Grammar

end Java
end BeanBuilder
