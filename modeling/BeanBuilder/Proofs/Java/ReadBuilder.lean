import BeanBuilder.Pairing
import BeanBuilder.Proofs.Java.BuilderNames
import BeanBuilder.Proofs.Java.Elements
import BeanBuilder.Proofs.Java.ReadClass

/-! # Builders as sources

The text of a builder is itself a source.  Its fields, its methods and its class are read one by one
(`exists_parse_builderText`), provided that every field is named by an identifier and every element
has a type that can be read.

A bean that comes from sources has names and types that could be written again.  Two things can
still go wrong: a field may be called like a reserved word, and the type of an element may close a
bracket that it does not open.  In all other cases the builder is read as one class that has
exactly the methods that were generated (`exists_parse_of_generate?`).
-/
namespace BeanBuilder
namespace Java

/-! ## What members show -/

/-- The accessor that a member of a class gives, if it is a method of its objects. -/
def Member.accessor? : Member → Option Accessor
  | .method m => if m.modifiers.isStatic then none else some (m.accessor {})
  | _ => none

/-- A text that is read as a member other than a constructor, and the accessor that it gives. -/
def ReadsAs (text : String) (a : Option Accessor) : Prop :=
  ∃ m, ReadsMember text m ∧ (∀ parameters, m ≠ .constructor parameters) ∧ m.accessor? = a

/-- Without imports every name stands for itself. -/
theorem renderIn_empty (type : JavaType) : type.renderIn {} = type.render id := by
  have hresolve : ({} : Scope).resolve = id := by
    funext name
    simp [Scope.resolve]
  rw [JavaType.renderIn, hresolve]

theorem readsAs_method {isStatic : Bool} {type : JavaType} {name : String}
    {parameter : Option (JavaType × String)} {statements : List String} (hr : type.Readable)
    (hname : IsIdentifier name) (hparameter : ∀ p ∈ parameter, p.1.Readable ∧ IsIdentifier p.2)
    (hstatements : ∀ text ∈ statements, IsStatementText text) :
    ReadsAs (({} : Draft.Layout).methodBlock (methodHead isStatic type name parameter) statements)
      (if isStatic then none
        else some { name, returnType := some (type.render id)
                    parameterTypes := (parameter.map fun p => p.1.render id).toList }) := by
  refine ⟨_, readsMember_method hr hname hparameter hstatements, nofun, ?_⟩
  rw [Member.accessor?]
  cases isStatic with
  | true => rfl
  | false =>
    cases parameter <;> simp [Method.accessor, renderIn_empty]

/-- Texts that are read as members without constructors make a class. -/
theorem exists_members_of_readsAs {texts : List String} {given : List (Option Accessor)}
    (h : List.Forall₂ ReadsAs texts given) :
    ∃ members, List.Forall₂ ReadsMember texts members ∧
      (∀ m ∈ members, ∀ parameters, m ≠ Member.constructor parameters) ∧
        members.map Member.accessor? = given := by
  induction h with
  | nil => exact ⟨[], .nil, by simp, rfl⟩
  | cons hone _ ih =>
    obtain ⟨m, hm, hconstructor, ha⟩ := hone
    obtain ⟨members, hmembers, hnone, hgiven⟩ := ih
    exact ⟨m :: members, .cons hm hmembers, List.forall_mem_cons.mpr ⟨hconstructor, hnone⟩,
      congrArg₂ List.cons ha hgiven⟩

/-- Without constructors among its members a class has the one without parameters. -/
theorem constructors_classOf {name : String} {members : List Member}
    (h : ∀ m ∈ members, ∀ parameters, m ≠ Member.constructor parameters) (s : Scope)
    (package : Option String) :
    ((classOf name members).declaration s package).constructors = [[]] := by
  have hnone : (classOf name members).constructors = [] := by
    rw [classOf, List.filterMap_eq_nil_iff]
    intro m hm
    cases m with
    | constructor parameters => exact absurd rfl (h _ hm parameters)
    | method m => rfl
    | other => rfl
  rw [ClassDeclaration.declaration, hnone]
  rfl

theorem declared_classOf (name : String) (members : List Member) (package : Option String) :
    ((classOf name members).declaration {} package).declared =
      members.filterMap Member.accessor? := by
  simp only [ClassDeclaration.declaration, classOf]
  induction members with
  | nil => rfl
  | cons m members ih =>
    cases m with
    | constructor parameters => exact ih
    | other => exact ih
    | method m =>
      cases hstatic : m.modifiers.isStatic <;>
        simp [Member.accessor?, hstatic, ih]

/-! ## Builders -/

/-- A method that changes a builder and answers with it, as an accessor. -/
def fluentAccessor (builderType name type : String) : Accessor where
  name := name
  returnType := some builderType
  parameterTypes := [type]

/-- The methods of the objects of a builder, in the order in which they are written. -/
def builderAccessors (builderType beanType : String) (members : List BeanBuilder.Member) :
    List Accessor :=
  members.filterMap (fun m => m.addable?.map (fluentAccessor builderType (adderName m.accessor))) ++
    members.map (fun m => fluentAccessor builderType (setterName m.accessor) m.type) ++
      [{ name := "build", returnType := some beanType }]

section Builder

variable {b : Bean} {m : BeanBuilder.Member}

theorem isValueText_initialValue {type value : String} {category : Category}
    (h : value ∈ ({} : Containers).initialValue type category) : IsValueText value := by
  have hlist : IsValueText "new java.util.ArrayList<>()" := isValueText_new
    "java" ["util", "ArrayList"] (by decide) (by decide)
  have hset : IsValueText "new java.util.HashSet<>()" := isValueText_new
    "java" ["util", "HashSet"] (by decide) (by decide)
  cases category with
  | primitive => exact nomatch h
  | collection =>
    rw [Containers.initialValue] at h
    split_ifs at h
    · exact Option.some.inj h ▸ hlist
    · exact Option.some.inj h ▸ hset
  | reference =>
    rw [Containers.initialValue] at h
    split_ifs at h
    · exact Option.some.inj h ▸ isValueText_emptyString
    · exact Option.some.inj h ▸ isValueText_null

/-- A member whose field, methods and initial value can be read. -/
structure IsReadableMember (m : BeanBuilder.Member) : Prop where
  accessor : isName m.accessor = true
  field : IsIdentifier m.field
  type : IsTypeText m.type
  initial : ∀ value ∈ m.initial, IsValueText value
  element : ∀ element ∈ m.addable?, IsTypeText element

/-- What can go wrong with a member of a bean from sources: a field with a reserved word as its
name, and an element that closes a bracket of another type. -/
theorem isReadableMember (hb : IsReadBean b) (hm : m ∈ ({} : Containers).builderMembers b)
    (hfield : m.field ∉ reservedWords)
    (helement : ∀ element ∈ m.addable?, TypeText.closesOwn element = true) :
    IsReadableMember m := by
  obtain ⟨a, ha, hcandidate, type, htype, rfl⟩ :=
    Containers.exists_candidate_of_mem_builderMembers hm
  obtain ⟨hname, htypes⟩ := hb.accessors a ha
  refine ⟨hname, isIdentifier_iff.mpr ⟨isName_fieldName hname hcandidate, hfield⟩,
    htypes type htype, fun _ hvalue => isValueText_initialValue hvalue, fun element htold => ?_⟩
  have hcut : TypeText.element? type = some element := by
    rw [Member.addable?, Containers.member] at htold
    split_ifs at htold
    · exact htold
    · cases htold
  exact isTypeText_of_element? (htypes type htype) hcut (helement element htold)

theorem isTypeText_builderType (hb : IsReadBean b) :
    IsTypeText (({} : BuilderStyle).builderType b) :=
  (isPath_qualify hb.package (isIdentifier_builderName hb.simpleName.1)).isTypeText

theorem isTypeText_qualifiedName (hb : IsReadBean b) : IsTypeText b.qualifiedName :=
  (isPath_qualify hb.package hb.simpleName).isTypeText

theorem readsAs_fluentBlock {name type parameter statement : String} (hb : IsReadBean b)
    (hname : IsIdentifier name) (htype : IsTypeText type) (hparameter : IsIdentifier parameter)
    (hstatement : IsStatementText statement) :
    ReadsAs (({} : BuilderStyle).fluentBlock b name type parameter statement)
      (some (fluentAccessor (({} : BuilderStyle).builderType b) name type)) := by
  obtain ⟨result, hr, hresult⟩ := isTypeText_builderType hb
  obtain ⟨t, ht, rfl⟩ := htype
  have hreads : ReadsAs (({} : Draft.Layout).methodBlock
      (methodHead false result name (some (t, parameter))) [statement, "return this;"]) _ :=
    readsAs_method hr hname (by simpa using ⟨ht, hparameter⟩)
      (by simpa using ⟨hstatement, isStatementText_returnThis⟩)
  rw [BuilderStyle.fluentBlock, ← hresult]
  simpa [methodHead, parameterText, fluentAccessor, String.append_assoc] using hreads

/-- The head of a public method without parameters. -/
theorem methodHead_none (isStatic : Bool) (type : JavaType) (name : String) :
    methodHead isStatic type name none =
      "public " ++ (if isStatic then "static " else "") ++ type.render id ++ " " ++ name ++
        "()" := by
  have hbrackets : "(" ++ (parameterText none ++ ")") = "()" := rfl
  rw [methodHead]
  simp only [String.append_assoc, hbrackets]

/-- `build` makes the bean, hands over every field and answers with the bean. -/
theorem readsAs_buildBlock {members : List BeanBuilder.Member} (hb : IsReadBean b)
    (hmembers : ∀ m ∈ members, isName m.accessor = true ∧ IsIdentifier m.field) :
    ReadsAs (({} : BuilderStyle).buildBlock b members)
      (some { name := "build", returnType := some b.qualifiedName }) := by
  have hne : b.qualifiedName ≠ "" := (isPath_qualify hb.package hb.simpleName).ne_empty
  obtain ⟨name, more, hname, hmore, hpath⟩ := isPath_qualify hb.package hb.simpleName
  have hstatements : ∀ text ∈ BuilderStyle.buildStatements b.qualifiedName members,
      IsStatementText text := by
    intro text htext
    simp only [BuilderStyle.buildStatements, List.cons_append, List.mem_cons, List.mem_append,
      List.mem_map, List.not_mem_nil, or_false] at htext
    rcases htext with rfl | ⟨m, hm, rfl⟩ | rfl
    · rw [Bean.qualifiedName, hpath]
      exact isStatementText_newObject hname hmore
    · exact isStatementText_handOver (isIdentifier_setterName (hmembers m hm).1) (hmembers m hm).2
    · exact isStatementText_returnObject
  obtain ⟨type, hr, htype⟩ := isTypeText_qualifiedName hb
  have hreads : ReadsAs (({} : Draft.Layout).methodBlock (methodHead false type "build" none)
      (BuilderStyle.buildStatements b.qualifiedName members)) _ :=
    readsAs_method hr (by decide) (fun p hp => absurd hp (Option.not_mem_none p)) hstatements
  rw [methodHead_none, htype] at hreads
  rw [BuilderStyle.buildBlock, if_neg hne]
  simpa [String.append_assoc] using hreads

/-- The factory does not belong to the objects of the builder. -/
theorem readsAs_factoryBlock (hb : IsReadBean b) :
    ReadsAs (({} : BuilderStyle).factoryBlock b) none := by
  obtain ⟨name, more, hname, hmore, hpath⟩ :=
    isPath_qualify hb.package (isIdentifier_builderName hb.simpleName.1)
  have hstatement :
      IsStatementText ("return new " ++ ({} : BuilderStyle).builderType b ++ "();") := by
    rw [BuilderStyle.builderType, hpath]
    exact isStatementText_returnNew hname hmore
  obtain ⟨type, hr, htype⟩ := isTypeText_builderType hb
  have hreads : ReadsAs (({} : Draft.Layout).methodBlock (methodHead true type "create" none)
      ["return new " ++ ({} : BuilderStyle).builderType b ++ "();"]) _ :=
    readsAs_method hr (by decide) (fun p hp => absurd hp (Option.not_mem_none p))
      (by simpa using hstatement)
  rw [methodHead_none, htype] at hreads
  rw [BuilderStyle.factoryBlock]
  simpa [String.append_assoc] using hreads

theorem readsAs_fieldLine (hm : IsReadableMember m) :
    ReadsAs (({} : BuilderStyle).fieldLine m) none := by
  obtain ⟨type, hr, htype⟩ := hm.type
  exact ⟨.other, readsMember_field hr htype hm.field hm.initial, nofun, rfl⟩

theorem readsAs_adderBlock {element : String} (hb : IsReadBean b) (hm : IsReadableMember m)
    (helement : element ∈ m.addable?) :
    ReadsAs (({} : BuilderStyle).adderBlock b m element)
      (some (fluentAccessor (({} : BuilderStyle).builderType b) (adderName m.accessor) element)) :=
  readsAs_fluentBlock hb (isIdentifier_adderName hm.accessor) (hm.element element helement)
    (by decide) (isStatementText_add hm.field)

theorem readsAs_setterBlock (hb : IsReadBean b) (hm : IsReadableMember m) :
    ReadsAs (({} : BuilderStyle).setterBlock b m)
      (some (fluentAccessor (({} : BuilderStyle).builderType b) (setterName m.accessor) m.type)) :=
  readsAs_fluentBlock hb (isIdentifier_setterName hm.accessor) hm.type (by decide)
    (isStatementText_assign hm.field)

/-- The texts of the members of a builder, in the order in which they are written. -/
def memberTexts (b : Bean) (members : List BeanBuilder.Member) : List String :=
  members.map ({} : BuilderStyle).fieldLine ++
    members.filterMap (fun m => m.addable?.map (({} : BuilderStyle).adderBlock b m)) ++
    members.map (({} : BuilderStyle).setterBlock b) ++
    [({} : BuilderStyle).buildBlock b members, ({} : BuilderStyle).factoryBlock b]

/-- What these texts give, in the same order. -/
def memberAccessors (b : Bean) (members : List BeanBuilder.Member) : List (Option Accessor) :=
  let builderType := ({} : BuilderStyle).builderType b
  members.map (fun _ => none) ++
    members.filterMap (fun m => m.addable?.map fun element =>
      some (fluentAccessor builderType (adderName m.accessor) element)) ++
    members.map (fun m => some (fluentAccessor builderType (setterName m.accessor) m.type)) ++
    [some { name := "build", returnType := some b.qualifiedName }, none]

/-- The members of a builder are read in order. -/
theorem readsAs_memberTexts {members : List BeanBuilder.Member} (hb : IsReadBean b)
    (hmembers : ∀ m ∈ members, IsReadableMember m) :
    List.Forall₂ ReadsAs (memberTexts b members) (memberAccessors b members) := by
  have hfields : List.Forall₂ ReadsAs (members.map ({} : BuilderStyle).fieldLine)
      (members.map fun _ => none) := by
    rw [List.forall₂_map_left_iff, List.forall₂_map_right_iff, List.forall₂_same]
    exact fun m hm => readsAs_fieldLine (hmembers m hm)
  have hadders : List.Forall₂ ReadsAs
      (members.filterMap fun m => m.addable?.map (({} : BuilderStyle).adderBlock b m))
      (members.filterMap fun m => m.addable?.map fun element =>
        some (fluentAccessor (({} : BuilderStyle).builderType b) (adderName m.accessor)
          element)) := by
    refine List.rel_filterMap (R := fun m m' => m = m' ∧ m ∈ members) ?_
      (List.forall₂_same.mpr fun m hm => ⟨rfl, hm⟩)
    rintro m _ ⟨rfl, hm⟩
    cases haddable : m.addable? with
    | none => simp only [haddable, Option.map_none, Option.Rel.none]
    | some element =>
      simp only [haddable, Option.map_some]
      exact .some (readsAs_adderBlock hb (hmembers m hm) haddable)
  have hsetters : List.Forall₂ ReadsAs (members.map (({} : BuilderStyle).setterBlock b))
      (members.map fun m => some (fluentAccessor (({} : BuilderStyle).builderType b)
        (setterName m.accessor) m.type)) := by
    rw [List.forall₂_map_left_iff, List.forall₂_map_right_iff, List.forall₂_same]
    exact fun m hm => readsAs_setterBlock hb (hmembers m hm)
  have hbuild := readsAs_buildBlock hb fun m hm =>
    ⟨(hmembers m hm).accessor, (hmembers m hm).field⟩
  exact List.rel_append (List.rel_append (List.rel_append hfields hadders) hsetters)
    (.cons hbuild (.cons (readsAs_factoryBlock hb) .nil))

/-- Fields and the factory give no accessors. -/
theorem filterMap_memberAccessors (b : Bean) (members : List BeanBuilder.Member) :
    (memberAccessors b members).filterMap id =
      builderAccessors (({} : BuilderStyle).builderType b) b.qualifiedName members := by
  have hnone : (members.map fun _ => (none : Option Accessor)).filterMap id = [] := by
    rw [List.filterMap_map]
    exact List.filterMap_eq_nil_iff.mpr fun _ _ => rfl
  have hsome : ∀ (o : Option String) (f : String → Accessor),
      (o.map fun element => some (f element)).bind id = o.map f := by
    intro o f
    cases o <;> rfl
  have hall : ∀ f : BeanBuilder.Member → Accessor,
      members.filterMap (id ∘ fun m => some (f m)) = members.map f :=
    fun f => congrFun List.filterMap_eq_map members
  simp only [memberAccessors, List.filterMap_append, hnone, List.filterMap_map,
    List.filterMap_filterMap, hsome, hall, List.nil_append]
  rfl

/-- **The builder of a bean is read back.** -/
theorem exists_parse_builderText {members : List BeanBuilder.Member} (hb : IsReadBean b)
    (hmembers : ∀ m ∈ members, IsReadableMember m) :
    ∃ u k, SourceFile.parse (({} : BuilderStyle).builderText b members) = .ok u ∧
      u.imports = [] ∧ u.package = b.package ∧ u.classes = [k] ∧
        k.name = ({} : BuilderStyle).builderName b ∧
        (k.declaration {} u.package).constructors = [[]] ∧
        (k.declaration {} u.package).declared =
          builderAccessors (({} : BuilderStyle).builderType b) b.qualifiedName members := by
  obtain ⟨read, hread, hconstructors, haccessors⟩ :=
    exists_members_of_readsAs (readsAs_memberTexts hb hmembers)
  obtain ⟨package, hpackage, hpaths, htext⟩ : ∃ package : Option (String × List String),
      (package.map fun p => Text.joinStrings "." (p.1 :: p.2)) = b.package ∧
      (∀ p ∈ package, IsIdentifier p.1 ∧ ∀ m ∈ p.2, IsIdentifier m) ∧
      packageText package = ({} : BuilderStyle).packagePart b := by
    cases hp : b.package with
    | none => exact ⟨none, rfl, nofun, by rw [BuilderStyle.packagePart, hp]; rfl⟩
    | some p =>
      obtain ⟨name, more, hname, hmore, rfl⟩ := hb.package p hp
      refine ⟨some (name, more), rfl, ?_, ?_⟩
      · rintro _ ⟨⟩
        exact ⟨hname, hmore⟩
      · rw [BuilderStyle.packagePart, hp]
        simp only [if_neg (joinStrings_ne_empty hname more), packageText]
  have hparse := parse_classText hpaths (isIdentifier_builderName hb.simpleName.1) hread
  have hjoin : packageText package ++ "\n" ++ "public class " ++
      ({} : BuilderStyle).builderName b ++ r" {" ++ "\n" ++
        String.join (memberTexts b members) ++ r"}" =
          ({} : BuilderStyle).builderText b members := by
    rw [BuilderStyle.builderText, memberTexts, htext]
    simp only [String.join_append, String.join_cons, String.join_nil, String.append_empty,
      String.append_assoc]
  rw [hjoin, hpackage] at hparse
  refine ⟨_, _, hparse, rfl, rfl, rfl, rfl, constructors_classOf hconstructors _ _, ?_⟩
  rw [declared_classOf, ← filterMap_memberAccessors, ← haccessors, List.filterMap_map]
  rfl

end Builder

/-! ## Beans of sources -/

/-- **The builder of a bean from sources is read back**, if no field is called like a reserved word
and every element closes only its own brackets: as one class with the name of the builder and the
constructor without parameters, whose methods are the adders, the setters and `build`, in this
order and with the types that were written. -/
theorem exists_parse_of_generate? {c : Catalog} {b : Bean} {source : BuilderSource}
    (hc : c.Reached) (hb : b ∈ c.beans)
    (hsource : ({} : BuilderStyle).generate? {} b = .ok source)
    (hfields : ∀ m ∈ ({} : Containers).builderMembers b, m.field ∉ reservedWords)
    (helements : ∀ m ∈ ({} : Containers).builderMembers b, ∀ element ∈ m.addable?,
      TypeText.closesOwn element = true) :
    ∃ u k, SourceFile.parse source.text = .ok u ∧ u.classes = [k] ∧
      let d := k.declaration (Scope.ofImports u.imports) u.package
      d.qualifiedName = source.qualifiedName ∧ d.constructors = [[]] ∧
        d.declared = builderAccessors source.qualifiedName b.qualifiedName
          (({} : Containers).builderMembers b) := by
  have hread := Catalog.isReadBean_of_mem_beans hc hb
  have hmembers : ∀ m ∈ ({} : Containers).builderMembers b, IsReadableMember m :=
    fun m hm => isReadableMember hread hm (hfields m hm) (helements m hm)
  obtain ⟨hname, htext⟩ := BuilderStyle.source_of_generate? hsource
  obtain ⟨u, k, hparse, himports, hpackage, hclass, hk, hconstructors, hdeclared⟩ :=
    exists_parse_builderText hread hmembers
  refine ⟨u, k, htext ▸ hparse, hclass, ?_⟩
  rw [himports, hname]
  refine ⟨?_, hconstructors, hdeclared⟩
  rw [TypeDeclaration.qualifiedName, BuilderStyle.builderType, ← hpackage, ← hk]
  rfl

/-- A class with a list and a number. -/
def orderCode : String :=
  r"package shop; import java.util.*; public class Order { " ++
    r"List<String> getTags() { return null; } int getId() { return 0; } }"

/-- The class as the generator sees it. -/
def readOrder : Bean where
  simpleName := "Order"
  package := some "shop"
  accessors := [{ name := "getTags", returnType := some "java.util.List<String>" },
    { name := "getId", returnType := some "int" }]
  constructors := [[]]

theorem exists_parse_of_generate?_readOrder :
    ∃ (c : Catalog) (source : BuilderSource), c.Reached ∧ readOrder ∈ c.beans ∧
      ({} : BuilderStyle).generate? {} readOrder = .ok source ∧
      (∀ m ∈ ({} : Containers).builderMembers readOrder, m.field ∉ reservedWords) ∧
      (∀ m ∈ ({} : Containers).builderMembers readOrder, ∀ element ∈ m.addable?,
        TypeText.closesOwn element = true) ∧
      ∃ u k, SourceFile.parse source.text = .ok u ∧ u.classes = [k] ∧
        let d := k.declaration (Scope.ofImports u.imports) u.package
        d.qualifiedName = "shop.OrderBuilder" ∧ d.constructors = [[]] ∧
          d.declared =
            [fluentAccessor "shop.OrderBuilder" "addTag" "String",
              fluentAccessor "shop.OrderBuilder" "setTags" "java.util.List<String>",
              fluentAccessor "shop.OrderBuilder" "setId" "int",
              { name := "build", returnType := some "shop.Order" }] := by
  have hbeans : (({} : Catalog).parse orderCode).toOption.map (fun r => r.2.beans) =
      some [readOrder] := by decide +kernel
  have hfields : ∀ m ∈ ({} : Containers).builderMembers readOrder, m.field ∉ reservedWords := by
    decide +kernel
  have helements : ∀ m ∈ ({} : Containers).builderMembers readOrder, ∀ element ∈ m.addable?,
      TypeText.closesOwn element = true := by decide +kernel
  cases hread : ({} : Catalog).parse orderCode with
  | error e =>
    rw [hread] at hbeans
    exact nomatch hbeans
  | ok r =>
    rw [hread] at hbeans
    have hreached : r.2.Reached := Catalog.Reached.empty.parse hread
    have hone : r.2.beans = [readOrder] := Option.some.inj hbeans
    have hmem : readOrder ∈ r.2.beans := hone ▸ List.mem_singleton_self _
    refine ⟨r.2, _, hreached, hmem, rfl, hfields, helements, ?_⟩
    exact exists_parse_of_generate? hreached hmem rfl hfields helements

/-- A class with a value that is called `default`. -/
def settingsCode : String :=
  r"package p; public class Settings { String getDefault() { return null; } " ++
    r"void setDefault(String value) { } }"

/-- The class as the generator sees it. -/
def settingsBean : Bean where
  simpleName := "Settings"
  package := some "p"
  accessors := [{ name := "getDefault", returnType := some "String" },
    { name := "setDefault", parameterTypes := ["String"] }]
  constructors := [[]]

theorem parse_eq_error_grammar_iff {source : String} :
    SourceFile.parse source = .error .grammar ↔
      (tokens? source).any (fun ts => (SourceFile.ofTokens? ts).isNone) = true := by
  rw [SourceFile.parse]
  cases tokens? source with
  | none => simp
  | some ts => cases h : SourceFile.ofTokens? ts <;> simp [h]

/-- **A builder can be no Java.**  The class is read, there is no objection to it, and its builder
is generated; but the field of the builder is called `default`, and the text is refused. -/
theorem settingsBean_builder_is_refused :
    (({} : Catalog).parse settingsCode).toOption.map (fun r => r.2.link.beans) =
        some [settingsBean] ∧
      settingsBean.objections false true = [] ∧
      ∃ source, ({} : BuilderStyle).generate? {} settingsBean = .ok source ∧
        SourceFile.parse source.text = .error .grammar := by
  obtain ⟨source, hsource⟩ : ∃ source, ({} : BuilderStyle).generate? {} settingsBean = .ok source :=
    ⟨_, rfl⟩
  refine ⟨by decide +kernel, by decide +kernel, source, hsource,
    parse_eq_error_grammar_iff.mpr ?_⟩
  -- the characters of the text are taken section by section, as it is long
  rw [(BuilderStyle.text_generate? hsource).1]
  simp only [tokens?, BuilderStyle.builderText, String.toList_append]
  decide +kernel

end Java
end BeanBuilder
