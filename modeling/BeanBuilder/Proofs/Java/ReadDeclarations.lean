import BeanBuilder.Proofs.Java.ReadNames
import BeanBuilder.Proofs.Java.TypeTokens

/-! # Declarations that are read

Whatever is read from a source could be written again: its names are identifiers, its types are
readable, and its package and imports are paths of identifiers (`readable_of_parse`).  There is one
lemma for every reader; rules that read nothing leave only tokens that they were given.
-/
namespace BeanBuilder
namespace Java

/-! ## What can be written again -/

/-- A name with points between its parts, each of them an identifier. -/
def IsPath (text : String) : Prop :=
  ∃ name more, IsIdentifier name ∧ (∀ m ∈ more, IsIdentifier m) ∧
    text = Text.joinStrings "." (name :: more)

/-- A method whose name is an identifier and whose types are readable. -/
structure Method.Readable (m : Method) : Prop where
  name : IsIdentifier m.name
  result : ∀ type ∈ m.result, type.Readable
  parameters : ∀ type ∈ m.parameters, type.Readable

/-- A member that is a readable method or no method. -/
def Member.Readable : Member → Prop
  | .method m => m.Readable
  | .constructor _ | .other => True

/-- A class whose name is an identifier, with a readable superclass and readable methods. -/
structure ClassDeclaration.Readable (c : ClassDeclaration) : Prop where
  name : IsIdentifier c.name
  superclass : ∀ type ∈ c.superclass, type.Readable
  methods : ∀ m ∈ c.methods, m.Readable

/-- A source file with readable classes, whose package and imports are paths. -/
structure SourceFile.Readable (u : SourceFile) : Prop where
  package : ∀ p ∈ u.package, IsPath p
  imports : ∀ i ∈ u.imports, IsPath i.path
  classes : ∀ c ∈ u.classes, c.Readable

/-! ## Names and types -/

theorem gives_identifier : Gives Token.Proper (textOf? .identifier) IsIdentifier := by
  refine (gives_textOf? .identifier).imp ?_
  rintro text ⟨t, ht, hkind, rfl⟩
  obtain ⟨hname, hword⟩ := ht (Or.inl hkind)
  exact ⟨hname, hword.trans hkind⟩

theorem isIdentifier_of_proper {t : Token} (ht : t.Proper) (hkind : t.kind = .identifier) :
    IsIdentifier t.text :=
  (ht (Or.inl hkind)).imp_right fun hword => hword.trans hkind

/-- Types whose names come from proper tokens are readable. -/
def readableTypes : TypeProperty Token.Proper where
  path := TypePath.Readable
  arguments := ArgumentsReadable
  argument := TypeArgument.Readable
  reference type := type.IsReference ∧ type.Readable
  last ht hkind has := ⟨isIdentifier_of_proper ht hkind, has⟩
  outer ht hkind has hinner := ⟨isIdentifier_of_proper ht hkind, has, hinner⟩
  nil := trivial
  cons ha has := ⟨ha, has⟩
  any := trivial
  exact htype := htype
  upper hbound := hbound
  lower hbound := hbound
  array ht hkind hn := ⟨hn, (ht (Or.inr hkind)).2.trans hkind⟩
  named hp := ⟨trivial, hp⟩

/-- **Every type that is read is readable.** -/
theorem gives_readable : Gives Token.Proper readType? JavaType.Readable := by
  refine readableTypes.gives_readType?.imp ?_
  rintro type (⟨-, hreadable⟩ | ⟨t, n, ht, hkind, rfl⟩)
  · exact hreadable
  · exact (ht (Or.inr hkind)).2.trans hkind

theorem JavaType.Readable.withDimensions {type : JavaType} (h : type.Readable) (more : Nat) :
    (type.withDimensions more).Readable := by
  cases type with
  | basic name dimensions => exact h
  | named path dimensions => exact h

/-! ## Modifiers -/

section Readers

variable {ts rest : List Token}

/-- Some tokens among others that are proper. -/
theorem proper_of_subset (hts : ∀ t ∈ ts, t.Proper) (h : rest ⊆ ts) : ∀ t ∈ rest, t.Proper :=
  fun t ht => hts t (h ht)

theorem gives_readAnnotation? : Gives Token.Proper readAnnotation? fun _ => True := by
  intro ts name rest hts h
  obtain ⟨rest', hafter, h⟩ := Option.bind_eq_some_iff.mp h
  obtain ⟨⟨names, _⟩, -, h⟩ := Option.bind_eq_some_iff.mp h
  obtain ⟨rfl, rfl⟩ := Prod.mk.inj (Option.some.inj h)
  exact ⟨trivial, proper_of_subset hts
    (Grammar.subset_of_after? (Grammar.passesOver_rule .annotationMark) hafter)⟩

theorem gives_readModifiers? (steps : Nat) (m : Modifiers) :
    Gives Token.Proper (readModifiers? steps m) fun _ => True := by
  induction steps generalizing m with
  | zero => exact nofun
  | succ steps ih =>
    intro ts m' rest hts h
    rw [readModifiers?] at h
    split at h
    · rename_i word ts₁ hword
      obtain ⟨-, hts₁⟩ := gives_textOf? .modifier hts hword
      exact ih _ hts₁ h
    · split_ifs at h
      · obtain ⟨⟨name, ts₁⟩, hannotation, h⟩ := Option.bind_eq_some_iff.mp h
        exact ih _ (gives_readAnnotation? hts hannotation).2 h
      · obtain ⟨rfl, rfl⟩ := Prod.mk.inj (Option.some.inj h)
        exact ⟨trivial, hts⟩

/-! ## Members -/

/-- A parameter has a name behind its type, and more parameters behind a comma.  The last one may
take any number of values. -/
theorem readable_of_named {steps : Nat} {type : JavaType} {types : List JavaType}
    {ts rest : List Token} (isLast : Bool)
    (ih : Gives Token.Proper (readParameters? steps) fun types => ∀ type ∈ types, type.Readable)
    (hreadable : type.Readable) (hts : ∀ t ∈ ts, t.Proper)
    (h : ((textOf? .identifier ts).bind fun r =>
      match isLast, afterText? "," (readDimensions r.2).2 with
      | false, some ts => (readParameters? steps ts).bind fun q =>
          some (type.withDimensions (readDimensions r.2).1 :: q.1, q.2)
      | _, _ => (afterText? ")" (readDimensions r.2).2).bind fun ts =>
          some ([type.withDimensions (readDimensions r.2).1], ts)) = some (types, rest)) :
    (∀ type ∈ types, type.Readable) ∧ ∀ t ∈ rest, t.Proper := by
  obtain ⟨⟨name, ts₁⟩, hname, h⟩ := Option.bind_eq_some_iff.mp h
  obtain ⟨-, hts₁⟩ := gives_identifier hts hname
  have hts₂ := proper_of_subset hts₁ (subset_readDimensions ts₁)
  have hone := hreadable.withDimensions (readDimensions ts₁).1
  simp only at h
  split at h
  · rename_i ts₃ hcomma _
    obtain ⟨⟨more, ts₄⟩, hmore, h⟩ := Option.bind_eq_some_iff.mp h
    obtain ⟨rfl, rfl⟩ := Prod.mk.inj (Option.some.inj h)
    obtain ⟨hall, hrest⟩ := ih (proper_of_subset hts₂ (subset_of_afterText? hcomma)) hmore
    exact ⟨List.forall_mem_cons.mpr ⟨hone, hall⟩, hrest⟩
  · obtain ⟨ts₃, hclose, h⟩ := Option.bind_eq_some_iff.mp h
    obtain ⟨rfl, rfl⟩ := Prod.mk.inj (Option.some.inj h)
    exact ⟨fun t ht => List.mem_singleton.mp ht ▸ hone,
      proper_of_subset hts₂ (subset_of_afterText? hclose)⟩

theorem gives_readParameters? (steps : Nat) :
    Gives Token.Proper (readParameters? steps) fun types => ∀ type ∈ types, type.Readable := by
  induction steps with
  | zero =>
    intro ts types rest _ h
    cases h
  | succ steps ih =>
    intro ts types rest hts h
    rw [readParameters?] at h
    obtain ⟨ts₁, hmodifiers, h⟩ := Option.bind_eq_some_iff.mp h
    have hts₁ := proper_of_subset hts
      (Grammar.subset_of_after? Grammar.passesOver_variableModifiers hmodifiers)
    obtain ⟨⟨type, ts₂⟩, htype, h⟩ := Option.bind_eq_some_iff.mp h
    obtain ⟨hreadable, hts₂⟩ := gives_readable hts₁ htype
    simp only at h
    split at h
    · rename_i hpoints
      exact readable_of_named true ih hreadable
        (proper_of_subset hts₂ (subset_of_afterText? hpoints)) h
    · exact readable_of_named false ih hreadable hts₂ h

theorem gives_readParameterList? :
    Gives Token.Proper readParameterList? fun types => ∀ type ∈ types, type.Readable := by
  intro ts types rest hts h
  obtain ⟨ts₁, hopen, h⟩ := Option.bind_eq_some_iff.mp h
  have hts₁ := proper_of_subset hts (subset_of_afterText? hopen)
  split at h
  · rename_i ts₂ hclose
    obtain ⟨rfl, rfl⟩ := Prod.mk.inj (Option.some.inj h)
    exact ⟨by simp, proper_of_subset hts₁ (subset_of_afterText? hclose)⟩
  · exact gives_readParameters? _ hts₁ h

/-- The methods among the members that are read are readable. -/
theorem gives_readConstructor? : Gives Token.Proper readConstructor? Member.Readable := by
  intro ts member rest hts h
  obtain ⟨⟨name, ts₁⟩, hname, h⟩ := Option.bind_eq_some_iff.mp h
  obtain ⟨-, hts₁⟩ := gives_identifier hts hname
  obtain ⟨⟨parameters, ts₂⟩, hparameters, h⟩ := Option.bind_eq_some_iff.mp h
  obtain ⟨-, hts₂⟩ := gives_readParameterList? hts₁ hparameters
  obtain ⟨ts₃, hblock, h⟩ := Option.bind_eq_some_iff.mp h
  obtain ⟨rfl, rfl⟩ := Prod.mk.inj (Option.some.inj h)
  have hrule : (Grammar.throwsList ++ .call Phrase.block : Grammar.JavaRule).PassesOver :=
    ⟨Grammar.passesOver_throwsList, trivial⟩
  exact ⟨trivial, proper_of_subset hts₂ (Grammar.subset_of_after? hrule hblock)⟩

theorem passesOver_methodEnd : (Grammar.throwsList ++ Grammar.bodyOrNone).PassesOver :=
  ⟨Grammar.passesOver_throwsList, Grammar.passesOver_bodyOrNone⟩

theorem passesOver_fieldsEnd : (Grammar.fieldsRest ++ .word ";").PassesOver :=
  ⟨Grammar.passesOver_fieldsRest, trivial⟩

theorem gives_readVoidMethod? (m : Modifiers) :
    Gives Token.Proper (readVoidMethod? m) Member.Readable := by
  intro ts member rest hts h
  obtain ⟨⟨name, ts₁⟩, hname, h⟩ := Option.bind_eq_some_iff.mp h
  obtain ⟨hidentifier, hts₁⟩ := gives_identifier hts hname
  obtain ⟨⟨parameters, ts₂⟩, hparameters, h⟩ := Option.bind_eq_some_iff.mp h
  obtain ⟨hreadable, hts₂⟩ := gives_readParameterList? hts₁ hparameters
  obtain ⟨ts₃, hend, h⟩ := Option.bind_eq_some_iff.mp h
  obtain ⟨rfl, rfl⟩ := Prod.mk.inj (Option.some.inj h)
  exact ⟨⟨hidentifier, nofun, hreadable⟩,
    proper_of_subset hts₂ (Grammar.subset_of_after? passesOver_methodEnd hend)⟩

theorem gives_readMethod? {m : Modifiers} {result : JavaType} {name : String}
    (hresult : result.Readable) (hname : IsIdentifier name) :
    Gives Token.Proper (readMethod? m result name) Member.Readable := by
  intro ts member rest hts h
  obtain ⟨⟨parameters, ts₁⟩, hparameters, h⟩ := Option.bind_eq_some_iff.mp h
  obtain ⟨hreadable, hts₁⟩ := gives_readParameterList? hts hparameters
  have hts₂ := proper_of_subset hts₁ (subset_readDimensions ts₁)
  obtain ⟨ts₃, hend, h⟩ := Option.bind_eq_some_iff.mp h
  obtain ⟨rfl, rfl⟩ := Prod.mk.inj (Option.some.inj h)
  refine ⟨⟨hname, ?_, hreadable⟩,
    proper_of_subset hts₂ (Grammar.subset_of_after? passesOver_methodEnd hend)⟩
  rintro _ ⟨⟩
  exact hresult.withDimensions _

theorem gives_passOver? {r : Grammar.JavaRule} (hr : r.PassesOver) :
    Gives Token.Proper (passOver? r) Member.Readable := by
  intro ts member rest hts h
  obtain ⟨ts₁, hafter, heq⟩ := Option.map_eq_some_iff.mp h
  obtain ⟨rfl, rfl⟩ := Prod.mk.inj heq
  exact ⟨trivial, proper_of_subset hts (Grammar.subset_of_after? hr hafter)⟩

theorem gives_readGeneric? (m : Modifiers) :
    Gives Token.Proper (readGeneric? m) Member.Readable := by
  intro ts member rest hts h
  obtain ⟨ts₁, hparameters, h⟩ := Option.bind_eq_some_iff.mp h
  have hts₁ := proper_of_subset hts
    (Grammar.subset_of_after? Grammar.passesOver_typeParameters hparameters)
  split_ifs at h
  · exact gives_readConstructor? hts₁ h
  · split at h
    · rename_i hvoid
      exact gives_readVoidMethod? m (proper_of_subset hts₁ (subset_of_afterText? hvoid)) h
    · obtain ⟨⟨type, ts₂⟩, htype, h⟩ := Option.bind_eq_some_iff.mp h
      obtain ⟨hreadable, hts₂⟩ := gives_readable hts₁ htype
      obtain ⟨⟨name, ts₃⟩, hname, h⟩ := Option.bind_eq_some_iff.mp h
      obtain ⟨hidentifier, hts₃⟩ := gives_identifier hts₂ hname
      exact gives_readMethod? hreadable hidentifier hts₃ h

theorem gives_readMemberRest? (m : Modifiers) :
    Gives Token.Proper (readMemberRest? m) Member.Readable := by
  intro ts member rest hts h
  rw [readMemberRest?] at h
  split at h
  · rename_i hvoid
    exact gives_readVoidMethod? m (proper_of_subset hts (subset_of_afterText? hvoid)) h
  · split_ifs at h
    · exact gives_readGeneric? m hts h
    · exact gives_passOver? (r := .call .nestedType) trivial hts h
    · exact gives_readConstructor? hts h
    · obtain ⟨⟨type, ts₁⟩, htype, h⟩ := Option.bind_eq_some_iff.mp h
      obtain ⟨hreadable, hts₁⟩ := gives_readable hts htype
      obtain ⟨⟨name, ts₂⟩, hname, h⟩ := Option.bind_eq_some_iff.mp h
      obtain ⟨hidentifier, hts₂⟩ := gives_identifier hts₁ hname
      simp only at h
      split_ifs at h
      · exact gives_readMethod? hreadable hidentifier hts₂ h
      · exact gives_passOver? passesOver_fieldsEnd hts₂ h

theorem gives_readMember? : Gives Token.Proper readMember? Member.Readable := by
  intro ts member rest hts h
  rw [readMember?] at h
  split_ifs at h
  · exact gives_passOver? Grammar.passesOver_member hts h
  · obtain ⟨⟨m, ts₁⟩, hmodifiers, h⟩ := Option.bind_eq_some_iff.mp h
    obtain ⟨-, hts₁⟩ := gives_readModifiers? _ _ hts hmodifiers
    exact gives_readMemberRest? m hts₁ h

theorem gives_readMembers? (steps : Nat) :
    Gives Token.Proper (readMembers? steps) fun members => ∀ m ∈ members, m.Readable := by
  induction steps with
  | zero => exact nofun
  | succ steps ih =>
    intro ts members rest hts h
    rw [readMembers?] at h
    split at h
    · rename_i hclose
      obtain ⟨rfl, rfl⟩ := Prod.mk.inj (Option.some.inj h)
      exact ⟨by simp, proper_of_subset hts (subset_of_afterText? hclose)⟩
    · obtain ⟨⟨member, ts₁⟩, hmember, h⟩ := Option.bind_eq_some_iff.mp h
      obtain ⟨hone, hts₁⟩ := gives_readMember? hts hmember
      obtain ⟨⟨more, ts₂⟩, hmore, h⟩ := Option.bind_eq_some_iff.mp h
      obtain ⟨rfl, rfl⟩ := Prod.mk.inj (Option.some.inj h)
      obtain ⟨hall, hrest⟩ := ih hts₁ hmore
      exact ⟨List.forall_mem_cons.mpr ⟨hone, hall⟩, hrest⟩

/-! ## Classes -/

theorem gives_readSuperclass? : Gives Token.Proper readSuperclass?
    fun superclass => ∀ type ∈ superclass, type.Readable := by
  intro ts superclass rest hts h
  rw [readSuperclass?] at h
  split at h
  · obtain ⟨rfl, rfl⟩ := Prod.mk.inj (Option.some.inj h)
    exact ⟨fun _ hmem => absurd hmem (Option.not_mem_none _), hts⟩
  · rename_i ts₁ hextends
    obtain ⟨⟨type, ts₂⟩, htype, heq⟩ := Option.map_eq_some_iff.mp h
    obtain ⟨rfl, rfl⟩ := Prod.mk.inj heq
    have hts₁ := proper_of_subset hts (subset_of_afterText? hextends)
    obtain ⟨hreadable, hts₂⟩ := gives_readable hts₁ htype
    exact ⟨fun _ hmem => Option.some.inj hmem ▸ hreadable, hts₂⟩

theorem gives_readClass? (m : Modifiers) :
    Gives Token.Proper (readClass? m) ClassDeclaration.Readable := by
  intro ts c rest hts h
  obtain ⟨ts₁, hclass, h⟩ := Option.bind_eq_some_iff.mp h
  have hts₁ := proper_of_subset hts (subset_of_afterText? hclass)
  obtain ⟨⟨name, ts₂⟩, hname, h⟩ := Option.bind_eq_some_iff.mp h
  obtain ⟨hidentifier, hts₂⟩ := gives_identifier hts₁ hname
  obtain ⟨ts₃, hparameters, h⟩ := Option.bind_eq_some_iff.mp h
  have hrule : (Rule.ifWord "<" Grammar.typeParameters).PassesOver :=
    ⟨Grammar.passesOver_typeParameters, trivial⟩
  have hts₃ := proper_of_subset hts₂ (Grammar.subset_of_after? hrule hparameters)
  obtain ⟨⟨superclass, ts₄⟩, hsuperclass, h⟩ := Option.bind_eq_some_iff.mp h
  obtain ⟨hextended, hts₄⟩ := gives_readSuperclass? hts₃ hsuperclass
  obtain ⟨ts₅, himplements, h⟩ := Option.bind_eq_some_iff.mp h
  have hts₅ := proper_of_subset hts₄
    (Grammar.subset_of_after? Grammar.passesOver_implementsList himplements)
  obtain ⟨ts₆, hopen, h⟩ := Option.bind_eq_some_iff.mp h
  have hts₆ := proper_of_subset hts₅ (subset_of_afterText? hopen)
  obtain ⟨⟨members, ts₇⟩, hmembers, h⟩ := Option.bind_eq_some_iff.mp h
  obtain ⟨hreadable, hts₇⟩ := gives_readMembers? _ hts₆ hmembers
  obtain ⟨rfl, rfl⟩ := Prod.mk.inj (Option.some.inj h)
  refine ⟨⟨hidentifier, hextended, ?_⟩, hts₇⟩
  -- the methods of the class are those among its members
  intro method hmethod
  obtain ⟨member, hmem, heq⟩ := List.mem_filterMap.mp hmethod
  cases member with
  | method m =>
    obtain rfl := Option.some.inj heq
    exact hreadable _ hmem
  | constructor parameters => exact nomatch heq
  | other => exact nomatch heq

theorem readable_of_readClasses? {steps : Nat} {ts : List Token} {classes : List ClassDeclaration}
    (hts : ∀ t ∈ ts, t.Proper) (h : readClasses? steps ts = some classes) :
    ∀ c ∈ classes, c.Readable := by
  induction steps generalizing ts classes with
  | zero => exact nomatch h
  | succ steps ih =>
    cases ts with
    | nil =>
      obtain rfl := Option.some.inj h
      simp
    | cons t more =>
      rw [readClasses?] at h
      · split at h
        · rename_i hend
          exact ih (proper_of_subset hts (subset_of_afterText? hend)) h
        · obtain ⟨⟨m, ts₁⟩, hmodifiers, h⟩ := Option.bind_eq_some_iff.mp h
          obtain ⟨-, hts₁⟩ := gives_readModifiers? _ _ hts hmodifiers
          simp only at h
          split_ifs at h
          · obtain ⟨⟨c, ts₂⟩, hclass, h⟩ := Option.bind_eq_some_iff.mp h
            obtain ⟨hone, hts₂⟩ := gives_readClass? m hts₁ hclass
            obtain ⟨further, hfurther, h⟩ := Option.bind_eq_some_iff.mp h
            obtain rfl := Option.some.inj h
            exact List.forall_mem_cons.mpr ⟨hone, ih hts₂ hfurther⟩
          · obtain ⟨ts₂, hother, h⟩ := Option.bind_eq_some_iff.mp h
            exact ih (proper_of_subset hts₁
              (Grammar.subset_of_after? (r := .call .nestedType) trivial hother)) h
      · exact nofun

/-! ## Files -/

theorem gives_readQualified? (steps : Nat) :
    Gives Token.Proper (readQualified? steps) fun names => IsPath (Text.joinStrings "." names) := by
  suffices hnames : Gives Token.Proper (readQualified? steps) fun names =>
      ∃ name more, names = name :: more ∧ IsIdentifier name ∧ ∀ m ∈ more, IsIdentifier m by
    refine hnames.imp ?_
    rintro _ ⟨name, more, rfl, hname, hmore⟩
    exact ⟨name, more, hname, hmore, rfl⟩
  induction steps with
  | zero => exact nofun
  | succ steps ih =>
    intro ts names rest hts h
    rw [readQualified?] at h
    obtain ⟨⟨name, ts₁⟩, hname, h⟩ := Option.bind_eq_some_iff.mp h
    obtain ⟨hidentifier, hts₁⟩ := gives_identifier hts hname
    simp only at h
    split at h
    · obtain ⟨rfl, rfl⟩ := Prod.mk.inj (Option.some.inj h)
      exact ⟨⟨name, [], rfl, hidentifier, by simp⟩, hts₁⟩
    · rename_i ts₂ hpoint
      obtain ⟨⟨more, ts₃⟩, hmore, h⟩ := Option.bind_eq_some_iff.mp h
      obtain ⟨rfl, rfl⟩ := Prod.mk.inj (Option.some.inj h)
      obtain ⟨⟨next, further, rfl, hnext, hfurther⟩, hrest⟩ :=
        ih (proper_of_subset hts₁ (subset_of_afterText? hpoint)) hmore
      exact ⟨⟨name, next :: further, rfl, hidentifier, List.forall_mem_cons.mpr ⟨hnext, hfurther⟩⟩,
        hrest⟩

theorem gives_readPackage? :
    Gives Token.Proper readPackage? fun package => ∀ p ∈ package, IsPath p := by
  intro ts package rest hts h
  obtain ⟨c, hcourse, h⟩ := Option.bind_eq_some_iff.mp h
  -- annotations before the package are passed over; without a package reading begins again
  have hwithin := Grammar.within_of_course?
    (r := .repeated Grammar.annotationAhead (.call .annotationMark)) trivial hcourse
  split at h
  · obtain ⟨rfl, rfl⟩ := Prod.mk.inj (Option.some.inj h)
    exact ⟨fun p hp => absurd hp (Option.not_mem_none p), proper_of_subset hts hwithin.back⟩
  · rename_i ts₁ hpackage
    have hts₁ := proper_of_subset hts
      (List.Subset.trans (subset_of_afterText? hpackage) hwithin.rest)
    obtain ⟨⟨name, ts₂⟩, hname, h⟩ := Option.bind_eq_some_iff.mp h
    obtain ⟨⟨names, ts₃⟩, hnames, heq⟩ := Option.map_eq_some_iff.mp hname
    obtain ⟨rfl, rfl⟩ := Prod.mk.inj heq
    obtain ⟨hpath, hts₃⟩ := gives_readQualified? _ hts₁ hnames
    obtain ⟨ts₄, hend, h⟩ := Option.bind_eq_some_iff.mp h
    obtain ⟨rfl, rfl⟩ := Prod.mk.inj (Option.some.inj h)
    refine ⟨?_, proper_of_subset hts₃ (subset_of_afterText? hend)⟩
    rintro _ ⟨⟩
    exact hpath

theorem readable_of_ofTokens? {u : SourceFile} (hts : ∀ t ∈ ts, t.Proper)
    (h : SourceFile.ofTokens? ts = some u) : u.Readable := by
  obtain ⟨⟨package, ts₁⟩, hpackage, h⟩ := Option.bind_eq_some_iff.mp h
  obtain ⟨hpath, hts₁⟩ := gives_readPackage? hts hpackage
  obtain ⟨⟨imports, ts₂⟩, himports, h⟩ := Option.bind_eq_some_iff.mp h
  obtain ⟨hpaths, hts₂⟩ := gives_readImports? _ hts₁ himports
  obtain ⟨classes, hclasses, h⟩ := Option.bind_eq_some_iff.mp h
  obtain rfl := Option.some.inj h
  refine ⟨hpath, fun i hi => ?_, readable_of_readClasses? hts₂ hclasses⟩
  obtain ⟨names, hne, hnames, heq⟩ := hpaths i hi
  obtain ⟨name, more, rfl⟩ := List.exists_cons_of_ne_nil hne
  have hall : ∀ n ∈ name :: more, IsIdentifier n := by
    intro n hn
    obtain ⟨t, ht, hkind, rfl⟩ := hnames n hn
    exact isIdentifier_of_proper ht hkind
  rw [List.forall_mem_cons] at hall
  exact ⟨name, more, hall.1, hall.2, heq⟩

/-- **Every source file that is read is readable.** -/
theorem readable_of_parse {source : String} {u : SourceFile}
    (h : SourceFile.parse source = .ok u) : u.Readable := by
  rw [SourceFile.parse] at h
  split at h
  · cases h
  · rename_i ts htokens
    split at h
    · cases h
    · rename_i u' hread
      obtain rfl := Except.ok.inj h
      exact readable_of_ofTokens? (proper_of_tokens? htokens) hread

end Readers

end Java
end BeanBuilder
