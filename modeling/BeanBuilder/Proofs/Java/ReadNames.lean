import BeanBuilder.Proofs.Java.Names
import BeanBuilder.Proofs.Java.Readers

/-! # Names that are read

Every type that is read from the tokens of a source is well named (`wellNamed_of_readType?`), and
so is the scope of the imports that are read from them (`wellNamed_of_readImports?`).  The names
come from the tokens: an identifier and the name of a basic type are words of that kind
(`proper_of_tokens?`), and a reader takes its names from such tokens and leaves such tokens
(`Reads`).
-/
namespace BeanBuilder
namespace Java

/-! ## Tokens -/

/-- A token that can stand as a name is a word. -/
def Token.Worded (t : Token) : Prop :=
  t.kind = .identifier ∨ t.kind = .basicType → isName t.text = true

/-- A token that can stand as a name is a word, and of the kind of that word. -/
def Token.Proper (t : Token) : Prop :=
  t.kind = .identifier ∨ t.kind = .basicType → isName t.text = true ∧ wordKind t.text = t.kind

/-- All of some tokens that can stand as a name are words. -/
def Worded (ts : List Token) : Prop :=
  ∀ t ∈ ts, t.Worded

theorem Token.proper_of_kind {t : Token} (hi : t.kind ≠ .identifier) (hb : t.kind ≠ .basicType) :
    t.Proper :=
  fun hkind => absurd hkind (not_or.mpr ⟨hi, hb⟩)

theorem Token.proper_ofWord {c : Char} (hc : isIdentifierStart c = true) (rest : List Char) :
    (Token.ofWord (String.ofList (c :: rest.takeWhile isIdentifierPart))).Proper := by
  intro _
  simp [Token.ofWord, isName, hc, String.toList_ofList, List.all_takeWhile]

theorem proper_of_token? {cs rest : List Char} {t : Token} (h : token? cs = some (t, rest)) :
    t.Proper := by
  -- tokens cut off by their length are no names
  have hcut : ∀ {kind : TokenKind} {n : Nat}, tokenOfLength kind cs n = (t, rest) →
      kind ≠ .identifier → kind ≠ .basicType → t.Proper := by
    intro kind n heq hi hb
    obtain ⟨rfl, -⟩ := Prod.mk.inj heq
    exact Token.proper_of_kind hi hb
  cases cs with
  | nil => exact nomatch h
  | cons c cs =>
    rw [token?] at h
    split_ifs at h with _ _ _ _ _ _ hstart
    · exact hcut (Option.some.inj h) nofun nofun
    · exact hcut (Option.some.inj h) nofun nofun
    · exact hcut (Option.some.inj h) nofun nofun
    · exact hcut (Option.some.inj h) nofun nofun
    · obtain ⟨n, -, heq⟩ := Option.map_eq_some_iff.mp h
      exact hcut heq nofun nofun
    · obtain ⟨n, -, heq⟩ := Option.map_eq_some_iff.mp h
      exact hcut heq nofun nofun
    · obtain ⟨rfl, -⟩ := Prod.mk.inj (Option.some.inj h)
      exact Token.proper_ofWord hstart cs
    · obtain ⟨s, -, heq⟩ := Option.map_eq_some_iff.mp h
      obtain ⟨rfl, -⟩ := Prod.mk.inj heq
      exact Token.proper_of_kind nofun nofun

theorem proper_of_scan? {steps : Nat} {cs : List Char} {ts : List Token}
    (h : scan? steps cs = some ts) : ∀ t ∈ ts, t.Proper := by
  induction steps generalizing cs ts with
  | zero => exact nomatch h
  | succ steps ih =>
    cases cs with
    | nil =>
      obtain rfl := Option.some.inj h
      exact fun _ hmem => absurd hmem List.not_mem_nil
    | cons c cs =>
      rw [scan?] at h
      split_ifs at h
      · exact ih h
      · exact ih h
      · obtain ⟨rest, -, hrest⟩ := Option.bind_eq_some_iff.mp h
        exact ih hrest
      · obtain ⟨⟨t, rest⟩, htoken, h⟩ := Option.bind_eq_some_iff.mp h
        obtain ⟨more, hmore, h⟩ := Option.bind_eq_some_iff.mp h
        obtain rfl := Option.some.inj h
        exact List.forall_mem_cons.mpr ⟨proper_of_token? htoken, ih hmore⟩

/-- **The names among the tokens of a source are words of their kind.** -/
theorem proper_of_tokens? {source : String} {ts : List Token} (h : tokens? source = some ts) :
    ∀ t ∈ ts, t.Proper := by
  obtain ⟨text, -, h⟩ := Option.bind_eq_some_iff.mp h
  exact proper_of_scan? h

theorem worded_of_tokens? {source : String} {ts : List Token} (h : tokens? source = some ts) :
    Worded ts :=
  fun t ht hkind => (proper_of_tokens? h t ht hkind).1

/-! ## Readers -/

/-- From tokens whose names are words, a reader gets only what has a property, and it leaves such
tokens. -/
def Reads {α : Type} (read : List Token → Option (α × List Token)) (good : α → Prop) : Prop :=
  ∀ {ts : List Token} {a : α} {rest : List Token}, Worded ts → read ts = some (a, rest) →
    good a ∧ Worded rest

/-- Types take every name from the tokens. -/
def wellNamedTypes : TypeProperty Token.Worded where
  path := TypePath.WellNamed
  arguments := ArgumentsWellNamed
  argument := TypeArgument.WellNamed
  reference := JavaType.WellNamed
  last ht hkind has := ⟨ht (Or.inl hkind), has⟩
  outer ht hkind has hinner := ⟨ht (Or.inl hkind), has, hinner⟩
  nil := trivial
  cons ha has := ⟨ha, has⟩
  any := trivial
  exact htype := htype
  upper hbound := hbound
  lower hbound := hbound
  array ht hkind _ := ht (Or.inr hkind)
  named hp := hp

/-- **Every type that is read is well named.** -/
theorem reads_readType? : Reads readType? JavaType.WellNamed := by
  intro ts type rest hts h
  obtain ⟨hreference | ⟨t, n, ht, hkind, rfl⟩, hrest⟩ := wellNamedTypes.gives_readType? hts h
  · exact ⟨hreference, hrest⟩
  · exact ⟨ht (Or.inr hkind), hrest⟩

/-! ## Imports -/

section Imports

variable {Q : Token → Prop}

/-- A name that is the text of an identifier with a property. -/
def NamedBy (Q : Token → Prop) (name : String) : Prop :=
  ∃ t, Q t ∧ t.kind = .identifier ∧ t.text = name

theorem namedBy_of_readImportPath? {steps : Nat} {ts rest : List Token} {names : List String}
    {isWildcard : Bool} (hts : ∀ t ∈ ts, Q t)
    (h : readImportPath? steps ts = some (names, isWildcard, rest)) :
    names ≠ [] ∧ (∀ name ∈ names, NamedBy Q name) ∧ ∀ t ∈ rest, Q t := by
  induction steps generalizing ts names isWildcard rest with
  | zero => exact nomatch h
  | succ steps ih =>
    rw [readImportPath?] at h
    obtain ⟨⟨name, ts₁⟩, hname, h⟩ := Option.bind_eq_some_iff.mp h
    obtain ⟨hnamed, hts₁⟩ := gives_textOf? .identifier hts hname
    have hone : ∀ n ∈ [name], NamedBy Q n := fun n hn => List.mem_singleton.mp hn ▸ hnamed
    -- what follows a text was given
    have hafter : ∀ {text : String} {ts₂ ts₃ : List Token}, (∀ t ∈ ts₂, Q t) →
        afterText? text ts₂ = some ts₃ → ∀ t ∈ ts₃, Q t :=
      fun hts₂ heq t ht => hts₂ t (subset_of_afterText? heq ht)
    simp only at h
    split at h
    · obtain ⟨ts₂, hend, h⟩ := Option.bind_eq_some_iff.mp h
      obtain ⟨rfl, -, rfl⟩ := Option.some.inj h
      exact ⟨List.cons_ne_nil _ _, hone, hafter hts₁ hend⟩
    · rename_i ts₂ hpoint
      have hts₂ := hafter hts₁ hpoint
      split at h
      · rename_i hstar
        obtain ⟨ts₃, hend, h⟩ := Option.bind_eq_some_iff.mp h
        obtain ⟨rfl, -, rfl⟩ := Option.some.inj h
        exact ⟨List.cons_ne_nil _ _, hone, hafter (hafter hts₂ hstar) hend⟩
      · obtain ⟨⟨more, w, ts₃⟩, hmore, h⟩ := Option.bind_eq_some_iff.mp h
        obtain ⟨rfl, -, rfl⟩ := Option.some.inj h
        obtain ⟨-, hall, hrest⟩ := ih hts₂ hmore
        exact ⟨List.cons_ne_nil _ _, List.forall_mem_cons.mpr ⟨hnamed, hall⟩, hrest⟩

/-- **The path of every import that is read** is put together from identifiers. -/
theorem gives_readImports? (steps : Nat) :
    Gives Q (readImports? steps) fun imports => ∀ i ∈ imports, ∃ names : List String, names ≠ [] ∧
      (∀ name ∈ names, NamedBy Q name) ∧ i.path = Text.joinStrings "." names := by
  induction steps with
  | zero => exact nofun
  | succ steps ih =>
    intro ts imports rest hts h
    rw [readImports?] at h
    split at h
    · obtain ⟨rfl, rfl⟩ := Prod.mk.inj (Option.some.inj h)
      exact ⟨fun _ hi => absurd hi List.not_mem_nil, hts⟩
    · rename_i ts₁ himport
      have hts₁ : ∀ t ∈ ts₁, Q t := fun t ht => hts t (subset_of_afterText? himport ht)
      have hfrom : ∀ {isStatic : Bool} {ts₂ : List Token}, (∀ t ∈ ts₂, Q t) →
          ((readImportPath? (ts₂.length + 1) ts₂).bind fun r =>
            (readImports? steps r.2.2).bind fun q =>
              some (⟨Text.joinStrings "." r.1, isStatic, r.2.1⟩ :: q.1, q.2)) =
                some (imports, rest) →
            (∀ i ∈ imports, ∃ names : List String, names ≠ [] ∧
              (∀ name ∈ names, NamedBy Q name) ∧ i.path = Text.joinStrings "." names) ∧
                ∀ t ∈ rest, Q t := by
        intro isStatic ts₂ hts₂ h
        obtain ⟨⟨names, isWildcard, ts₃⟩, hpath, h⟩ := Option.bind_eq_some_iff.mp h
        obtain ⟨⟨more, ts₄⟩, hmore, h⟩ := Option.bind_eq_some_iff.mp h
        obtain ⟨rfl, rfl⟩ := Prod.mk.inj (Option.some.inj h)
        obtain ⟨hne, hnames, hts₃⟩ := namedBy_of_readImportPath? hts₂ hpath
        obtain ⟨hall, hrest⟩ := ih hts₃ hmore
        exact ⟨List.forall_mem_cons.mpr ⟨⟨names, hne, hnames, rfl⟩, hall⟩, hrest⟩
      simp only at h
      split at h
      · rename_i hstatic
        exact hfrom (fun t ht => hts₁ t (subset_of_afterText? hstatic ht)) h
      · exact hfrom hts₁ h

/-- **The scope of the imports that are read** is well named. -/
theorem reads_readImports? (steps : Nat) :
    Reads (readImports? steps) fun imports => (Scope.ofImports imports).WellNamed := by
  intro ts imports rest hts h
  obtain ⟨hpaths, hrest⟩ := gives_readImports? steps hts h
  refine ⟨Scope.wellNamed_ofImports fun i hi => ?_, hrest⟩
  obtain ⟨names, hne, hnames, hpath⟩ := hpaths i hi
  refine ⟨names, hne, fun name hname => ?_, hpath⟩
  obtain ⟨t, ht, hkind, rfl⟩ := hnames name hname
  exact ht (Or.inl hkind)

end Imports

/-! ## Sources -/

section Source
variable {source : String} {ts ts' rest : List Token}

/-- **A type is well named** when it is read from tokens of a source. -/
theorem wellNamed_of_readType? {type : JavaType} (h : tokens? source = some ts) (hsub : ts' ⊆ ts)
    (hread : readType? ts' = some (type, rest)) : type.WellNamed :=
  (reads_readType? (fun t ht => worded_of_tokens? h t (hsub ht)) hread).1

/-- **The scope of some imports is well named** when they are read from tokens of a source. -/
theorem wellNamed_of_readImports? {steps : Nat} {imports : List Import}
    (h : tokens? source = some ts) (hsub : ts' ⊆ ts)
    (hread : readImports? steps ts' = some (imports, rest)) :
    (Scope.ofImports imports).WellNamed :=
  (reads_readImports? steps (fun t ht => worded_of_tokens? h t (hsub ht)) hread).1

end Source

end Java
end BeanBuilder
