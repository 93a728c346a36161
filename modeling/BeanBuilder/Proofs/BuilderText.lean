import BeanBuilder.Builder
import BeanBuilder.Proofs.Draft.Calls
import BeanBuilder.Proofs.Member

/-! # The text of a builder

`builderText` says what the text of a builder is, section by section and line by line, with the
indentation written out: no drafts, no depths and no block tracker.  Whenever a builder can be
generated, its text is exactly this one (`text_generate?`).

The sections go through the members of the bean in one order.  No member occurs twice in it, for
members have different fields and different setters.
-/
namespace BeanBuilder

/-- The type of one element, where elements can be added one by one. -/
def Member.addable? (m : Member) : Option String :=
  if m.category = .collection then m.element else none

namespace Draft
namespace Layout

variable (l : Layout)

/-- A line inside the class. -/
def memberLine (text : String) : String :=
  l.indentUnit ++ text ++ l.lineSeparator

/-- A line inside a method of the class. -/
def statementLine (text : String) : String :=
  l.indentUnit ++ l.indentUnit ++ text ++ l.lineSeparator

/-- A method of the class: a blank line, the head, the statements and the closing brace. -/
def methodBlock (head : String) (statements : List String) : String :=
  l.lineSeparator ++ l.memberLine (head ++ r" {") ++ String.join (statements.map l.statementLine)
    ++ l.memberLine r"}"

end Layout
end Draft

namespace BuilderStyle
open Draft

section Sections
variable (s : BuilderStyle) (b : Bean)

/-- The package line and the blank line below it, if there is a package. -/
def packagePart : String :=
  match b.package with
  | none => ""
  | some p =>
    if p = "" then ""
    else "package " ++ p ++ ";" ++ s.layout.lineSeparator ++ s.layout.lineSeparator

/-- The line of a field. -/
def fieldLine (m : Member) : String :=
  s.layout.memberLine ("private " ++ m.type ++ " " ++ m.field ++
    (match m.initial with
      | none => ""
      | some value => " = " ++ value) ++ ";")

/-- A method with one parameter that changes a field and answers with the builder. -/
def fluentBlock (name type parameter statement : String) : String :=
  s.layout.methodBlock
    ("public " ++ s.builderType b ++ " " ++ name ++ "(" ++ type ++ " " ++ parameter ++ ")")
    [statement, "return this;"]

/-- The method that adds one element to a collection. -/
def adderBlock (m : Member) (element : String) : String :=
  s.fluentBlock b (adderName m.accessor) element "item" ("this." ++ m.field ++ ".add(item);")

/-- The method that sets a member. -/
def setterBlock (m : Member) : String :=
  s.fluentBlock b (setterName m.accessor) m.type "obj" ("this." ++ m.field ++ " = obj;")

/-- The statements of `build`: make the bean, hand over every field, answer with the bean. -/
def buildStatements (type : String) (members : List Member) : List String :=
  (type ++ " obj = new " ++ type ++ "();") ::
    members.map (fun m => "obj." ++ setterName m.accessor ++ "(" ++ m.field ++ ");")
      ++ ["return obj;"]

/-- The method `build`.  A bean without any name has no type that its head could tell. -/
def buildBlock (members : List Member) : String :=
  s.layout.methodBlock
    ("public " ++ (if b.qualifiedName = "" then "void" else b.qualifiedName) ++ " build()")
    (buildStatements b.qualifiedName members)

/-- The static method that makes a new builder. -/
def factoryBlock : String :=
  s.layout.methodBlock ("public static " ++ s.builderType b ++ " " ++ s.factoryName ++ "()")
    ["return new " ++ s.builderType b ++ "();"]

/-- **The text of a builder**: package, class header, fields, adders, setters, `build`, factory
and the closing brace of the class. -/
def builderText (members : List Member) : String :=
  s.packagePart b ++ s.layout.lineSeparator
    ++ "public class " ++ s.builderName b ++ r" {" ++ s.layout.lineSeparator
    ++ String.join (members.map s.fieldLine)
    ++ String.join (members.filterMap fun m => m.addable?.map (s.adderBlock b m))
    ++ String.join (members.map (s.setterBlock b))
    ++ s.buildBlock b members
    ++ s.factoryBlock b
    ++ r"}"

end Sections

/-! ## Methods -/

section Methods
variable {l : Layout} {m : MethodDraft} {name result builderType : String}

theorem publicMethod?_eq_ok_iff :
    publicMethod? name result = .ok m ↔
      isLiteral name = true ∧
        m = { name, visibility := .everyone, returnType := some result,
              blocks := ({} : BlockStack).push ⟨.methodBody, name⟩ true } := by
  rw [publicMethod?, except_bind_eq_ok_iff]
  simp only [MethodDraft.new?_eq_ok_iff, except_pure_eq_ok_iff]
  constructor
  · rintro ⟨_, ⟨hname, rfl⟩, rfl⟩
    exact ⟨hname, rfl⟩
  · rintro ⟨hname, rfl⟩
    exact ⟨_, ⟨hname, rfl⟩, rfl⟩

theorem fluentMethod?_eq_ok_iff {type parameter statement : String} :
    fluentMethod? name builderType type parameter statement = .ok m ↔
      (isLiteral name = true ∧ isLiteral parameter = true) ∧
        m = { name, visibility := .everyone, returnType := some builderType,
              parameters := [(type, parameter)],
              lines := [statement, "return this;"].map fun line => (1, line),
              blocks := ({} : BlockStack).push ⟨.methodBody, name⟩ true } := by
  rw [fluentMethod?, except_bind_eq_ok_iff]
  simp only [publicMethod?_eq_ok_iff, except_bind_eq_ok_iff, MethodDraft.addParameter?_eq_ok_iff,
    except_pure_eq_ok_iff]
  constructor
  · rintro ⟨_, ⟨hname, rfl⟩, _, ⟨hparameter, rfl⟩, rfl⟩
    exact ⟨⟨hname, hparameter⟩, rfl⟩
  · rintro ⟨⟨hname, hparameter⟩, rfl⟩
    exact ⟨_, ⟨hname, rfl⟩, _, ⟨hparameter, rfl⟩, rfl⟩

theorem factoryMethod?_eq_ok_iff :
    factoryMethod? name builderType = .ok m ↔
      isLiteral name = true ∧
        m = { name, visibility := .everyone, returnType := some builderType, isStatic := true,
              lines := ["return new " ++ builderType ++ "();"].map fun line => (1, line),
              blocks := ({} : BlockStack).push ⟨.methodBody, name⟩ true } := by
  rw [factoryMethod?, except_bind_eq_ok_iff]
  simp only [publicMethod?_eq_ok_iff, except_pure_eq_ok_iff]
  constructor
  · rintro ⟨_, ⟨hname, rfl⟩, rfl⟩
    exact ⟨hname, rfl⟩
  · rintro ⟨hname, rfl⟩
    exact ⟨_, ⟨hname, rfl⟩, rfl⟩

/-- A method whose body has no block inside, shown in a class. -/
theorem text_finish_of_flat (statements : List String) (hf : m.finished = false)
    (hd : m.depth = 1) (hl : m.lines = statements.map fun line => (1, line)) :
    m.finish.text l 1 = l.methodBlock m.signature statements := by
  have hbody : MethodDraft.lineText l 1 (statements.map fun line => (1, line)) =
      String.join (statements.map l.statementLine) := by
    clear hl
    induction statements with
    | nil => simp [MethodDraft.lineText]
    | cons line rest ih =>
      simp [MethodDraft.lineText, ih, Layout.indented_succ, Layout.statementLine,
        String.append_assoc]
  rw [MethodDraft.text, MethodDraft.signature_finish, MethodDraft.lines_finish hf, hd, hl,
    MethodDraft.lineText_append, hbody]
  simp [MethodDraft.closers, MethodDraft.lineText, Layout.indented_succ, Layout.methodBlock,
    Layout.memberLine, String.append_assoc]

theorem text_fluentMethod? {s : BuilderStyle} {b : Bean} {type parameter statement : String}
    (hb : s.builderType b ≠ "")
    (h : fluentMethod? name (s.builderType b) type parameter statement = .ok m) :
    m.finish.text s.layout 1 = s.fluentBlock b name type parameter statement := by
  obtain ⟨-, rfl⟩ := fluentMethod?_eq_ok_iff.mp h
  rw [text_finish_of_flat [statement, "return this;"] rfl rfl rfl, fluentBlock]
  simp [MethodDraft.signature, MethodDraft.returnText, MethodDraft.parameterText,
    Text.joinStrings, Visibility.modifier, hb, String.append_assoc]

theorem addLines_handOver (members : List Member) (m : MethodDraft) :
    members.foldl (fun m member => m.addLine (handOver member)) m =
      { m with lines := m.lines ++ members.map fun member => (m.depth, handOver member) } := by
  induction members generalizing m with
  | nil => simp
  | cons member rest ih =>
    rw [List.foldl_cons, ih]
    simp [MethodDraft.addLine, MethodDraft.depth]

/-- The method `build` can always be written, and its body is one line for each statement. -/
theorem buildMethod?_eq (type : String) (members : List Member) :
    buildMethod? type members =
      .ok { name := "build", visibility := .everyone, returnType := some type,
            lines := (buildStatements type members).map fun line => (1, line),
            blocks := ({} : BlockStack).push ⟨.methodBody, "build"⟩ true } := by
  rw [buildMethod?, publicMethod?_eq_ok_iff.mpr ⟨by decide, rfl⟩]
  simp only [except_ok_bind, addLines_handOver]
  simp [MethodDraft.addLine, MethodDraft.depth, BlockStack.depth, BlockStack.push, buildStatements,
    handOver, pure, Except.pure]

theorem text_buildMethod? {s : BuilderStyle} {b : Bean} {members : List Member}
    (h : buildMethod? b.qualifiedName members = .ok m) :
    m.finish.text s.layout 1 = s.buildBlock b members := by
  rw [buildMethod?_eq, except_ok_eq_ok_iff] at h
  subst h
  rw [text_finish_of_flat (buildStatements b.qualifiedName members) rfl rfl rfl, buildBlock]
  simp [MethodDraft.signature, MethodDraft.returnText, MethodDraft.parameterText,
    Text.joinStrings, Visibility.modifier, String.append_assoc]

theorem text_factoryMethod? {s : BuilderStyle} {b : Bean} (hb : s.builderType b ≠ "")
    (h : factoryMethod? s.factoryName (s.builderType b) = .ok m) :
    m.finish.text s.layout 1 = s.factoryBlock b := by
  obtain ⟨-, rfl⟩ := factoryMethod?_eq_ok_iff.mp h
  rw [text_finish_of_flat ["return new " ++ s.builderType b ++ "();"] rfl rfl rfl, factoryBlock]
  simp [MethodDraft.signature, MethodDraft.returnText, MethodDraft.parameterText,
    Text.joinStrings, Visibility.modifier, hb, String.append_assoc]

end Methods

/-! ## Sections -/

/-- What a pass over a list gives piece by piece, it gives for the whole list. -/
theorem map_eq_of_mapM_eq_ok {ε α β γ : Type} {f : α → Except ε β} {g : β → γ} {k : α → γ}
    (hf : ∀ x y, f x = .ok y → g y = k x) {xs : List α} {ys : List β} (h : xs.mapM f = .ok ys) :
    ys.map g = xs.map k := by
  have hall := forall₂_of_mapM_eq_ok hf h
  clear h
  induction hall with
  | nil => rfl
  | cons hxy _ ih => rw [List.map_cons, List.map_cons, hxy, ih]

section Pieces
variable {s : BuilderStyle} {b : Bean} {m : Member} {members : List Member}

theorem text_setter? (hb : s.builderType b ≠ "") {draft : MethodDraft}
    (h : setter? (s.builderType b) m = .ok draft) :
    draft.finish.text s.layout 1 = s.setterBlock b m := by
  rw [setter?] at h
  rw [text_fluentMethod? hb h, setterBlock]

/-- What an adder is for, if there is one, is told by the type of one element. -/
theorem map_adder? {α : Type} {builderType : String} {f : MethodDraft → α} {adder : String → α}
    (hf : ∀ element draft, fluentMethod? (adderName m.accessor) builderType element "item"
      ("this." ++ m.field ++ ".add(item);") = .ok draft → f draft = adder element)
    {draft : Option MethodDraft} (h : adder? builderType m = .ok draft) :
    draft.map f = m.addable?.map adder := by
  unfold adder? at h
  split at h
  · rename_i element hcat helem
    obtain ⟨d, hd, h⟩ := except_bind_eq_ok_iff.mp h
    rw [except_pure_eq_ok_iff] at h
    subst h
    rw [Member.addable?, if_pos hcat, helem, Option.map_some, Option.map_some, hf element d hd]
  · rename_i hnone
    rw [except_ok_eq_ok_iff] at h
    subst h
    rw [Option.map_none, eq_comm, Option.map_eq_none_iff, Member.addable?]
    split
    · rename_i hcat
      exact Option.eq_none_iff_forall_ne_some.mpr (fun element he => hnone element hcat he)
    · rfl

/-- The methods of a builder are its adders, its setters, `build` and the factory. -/
theorem map_methods? {α : Type} {f : MethodDraft → α} {adder : Member → String → α}
    {setter : Member → α} {drafts : List MethodDraft}
    (hadder : ∀ m element draft, fluentMethod? (adderName m.accessor) (s.builderType b) element
      "item" ("this." ++ m.field ++ ".add(item);") = .ok draft → f draft = adder m element)
    (hsetter : ∀ m draft, setter? (s.builderType b) m = .ok draft → f draft = setter m)
    (h : s.methods? b members = .ok drafts) :
    ∃ build factory, buildMethod? b.qualifiedName members = .ok build ∧
      factoryMethod? s.factoryName (s.builderType b) = .ok factory ∧
      drafts.map f = members.filterMap (fun m => m.addable?.map (adder m)) ++
        members.map setter ++ [f build, f factory] := by
  obtain ⟨adders, hadders, h⟩ := except_bind_eq_ok_iff.mp h
  obtain ⟨setters, hsetters, h⟩ := except_bind_eq_ok_iff.mp h
  obtain ⟨build, hbuild, h⟩ := except_bind_eq_ok_iff.mp h
  obtain ⟨factory, hfactory, h⟩ := except_bind_eq_ok_iff.mp h
  rw [except_pure_eq_ok_iff] at h
  subst h
  have ha : (adders.filterMap id).map f = members.filterMap fun m => m.addable?.map (adder m) := by
    have hmap := map_eq_of_mapM_eq_ok (fun m d hd => map_adder? (hadder m) hd) hadders
    have hid := congrArg (List.filterMap id) hmap
    rw [List.filterMap_map, List.filterMap_map] at hid
    rw [List.map_filterMap]
    exact hid
  refine ⟨build, factory, hbuild, hfactory, ?_⟩
  rw [List.map_append, List.map_append, ha, map_eq_of_mapM_eq_ok hsetter hsetters]
  rfl

/-- The methods of a builder, shown one below the other, are its adders, its setters, `build`
and the factory. -/
theorem join_methods? (hb : s.builderType b ≠ "") {drafts : List MethodDraft}
    (h : s.methods? b members = .ok drafts) :
    String.join (drafts.map fun d => d.finish.text s.layout 1) =
      String.join (members.filterMap fun m => m.addable?.map (s.adderBlock b m))
        ++ String.join (members.map (s.setterBlock b)) ++ s.buildBlock b members
        ++ s.factoryBlock b := by
  obtain ⟨build, factory, hbuild, hfactory, hdrafts⟩ := map_methods?
    (fun m element draft hd => text_fluentMethod? hb hd) (fun m draft hd => text_setter? hb hd) h
  rw [hdrafts, String.join_append, String.join_append, text_buildMethod? hbuild,
    text_factoryMethod? hb hfactory]
  simp only [String.join_cons, String.join_nil, String.append_empty, String.append_assoc]
  rfl

/-- The fields of a builder, written into a class. -/
theorem writeFields?_eq_append (d : SourceDraft) {d' : SourceDraft} (hl : d.layout = s.layout)
    (hd : d.depth = 1) (h : writeFields? d members = .ok d') :
    d' = d.append (String.join (members.map s.fieldLine)) := by
  induction members generalizing d with
  | nil =>
    rw [writeFields?, except_ok_eq_ok_iff] at h
    simp [h]
  | cons m rest ih =>
    rw [writeFields?] at h
    obtain ⟨d₁, h₁, h⟩ := except_bind_eq_ok_iff.mp h
    have hfield : d₁ = d.append (s.fieldLine m) := by
      obtain ⟨-, rfl⟩ := (SourceDraft.after?_eq_ok_iff
        (.addField .ownClass m.type m.field m.initial) nofun).mp h₁
      rw [SourceCall.opens?, SourceDraft.extended_none, SourceCall.writes, hl, hd]
      refine congrArg d.append ?_
      cases hinitial : m.initial <;>
        simp [Layout.indented_succ, fieldLine, hinitial, Layout.memberLine, SourceCall.fieldText,
          Visibility.modifier, String.append_assoc]
    subst hfield
    rw [ih (d.append (s.fieldLine m)) hl hd h, SourceDraft.append_append, List.map_cons,
      String.join_cons]

end Pieces

theorem foldl_addMethod (methods : List MethodDraft) (d : SourceDraft) :
    methods.foldl SourceDraft.addMethod d =
      d.append (String.join (methods.map fun m => m.finish.text d.layout d.depth)) := by
  induction methods generalizing d with
  | nil => simp
  | cons m rest ih =>
    rw [List.foldl_cons, ih, SourceDraft.addMethod, SourceDraft.append_append, List.map_cons,
      String.join_cons]
    rfl

/-! ## The whole text -/

section Whole
variable {s : BuilderStyle} {c : Containers} {b : Bean} {members : List Member}
  {d d' : SourceDraft}

theorem definePackage?_eq_append (h : d.definePackage? b.package = .ok d')
    (hl : d.layout = s.layout) : d' = d.append (s.packagePart b) := by
  obtain ⟨-, rfl⟩ := (SourceDraft.after?_eq_ok_iff (.definePackage b.package) nofun).mp h
  rw [SourceCall.opens?, SourceDraft.extended_none, hl]
  cases hp : b.package <;> simp [SourceCall.writes, packagePart, hp]

/-- The header of the class of a builder, written where no block is open. -/
theorem defineClass?_eq_extended (hd : d.depth = 0)
    (h : d.defineClass? .everyone (s.builderName b) none = .ok d') (hl : d.layout = s.layout) :
    isLiteral (s.builderName b) = true ∧
      ∃ block, d' = d.extended (s.layout.lineSeparator ++ "public class " ++ s.builderName b
        ++ r" {" ++ s.layout.lineSeparator) (some block) := by
  obtain ⟨hnames, rfl⟩ := (SourceDraft.after?_eq_ok_iff
    (.defineClass .everyone (s.builderName b) none) nofun).mp h
  refine ⟨hnames _ List.mem_cons_self,
    ⟨.classBody, SourceCall.classHeader .everyone (s.builderName b) none⟩, ?_⟩
  rw [SourceCall.opens?, SourceCall.writes, hd, hl]
  simp [SourceCall.classHeader, Visibility.modifier, String.append_assoc]

/-- What stands above the methods: the package, the class header and the fields.  The class is
the only open block. -/
theorem opening?_eq (h : s.opening? b members = .ok d) :
    isLiteral (s.builderName b) = true ∧
      ∃ block, d = {
        layout := s.layout
        text := s.packagePart b ++ s.layout.lineSeparator ++ "public class " ++ s.builderName b
          ++ r" {" ++ s.layout.lineSeparator ++ String.join (members.map s.fieldLine)
        blocks := { blocks := [block] } } := by
  obtain ⟨d₂, hheader, h⟩ := except_bind_eq_ok_iff.mp h
  obtain ⟨d₁, h₁, h₂⟩ := except_bind_eq_ok_iff.mp hheader
  have hd₁ := definePackage?_eq_append h₁ rfl
  subst hd₁
  obtain ⟨hname, block, rfl⟩ := defineClass?_eq_extended rfl h₂ rfl
  have hd := writeFields?_eq_append _ rfl rfl h
  subst hd
  refine ⟨hname, block, ?_⟩
  simp [SourceDraft.append, SourceDraft.extended, BlockStack.push, String.append_assoc]

/-- The text of a draft whose only open block is the class ends in the brace of the class. -/
theorem render_of_one_open (hb : ∃ block, d.blocks = { blocks := [block] }) :
    d.render.1 = d.text ++ r"}" := by
  obtain ⟨block, hb⟩ := hb
  have hd : d.depth = 1 := by simp [SourceDraft.depth, hb, BlockStack.depth]
  rw [SourceDraft.render, SourceDraft.closeAll, hd, SourceDraft.closeBlocks,
    SourceDraft.closeBlocks, SourceDraft.closeBlock_of_open (congrArg BlockStack.blocks hb)
      (congrArg BlockStack.guarded hb)]
  simp

theorem builderType_ne_empty (h : isLiteral (s.builderName b) = true) : s.builderType b ≠ "" := by
  have hname := ne_empty_of_isLiteral h
  rw [builderType]
  cases b.package with
  | none => exact hname
  | some p =>
    by_cases hp : p = ""
    · simpa [qualify, hp] using hname
    · simp [qualify, hp]

/-- A generated builder has its name and the text of its members. -/
theorem source_of_generate? {source : BuilderSource} (h : s.generate? c b = .ok source) :
    source.qualifiedName = s.builderType b ∧
      source.text = s.builderText b (c.builderMembers b) := by
  obtain ⟨d, hd, h⟩ := except_bind_eq_ok_iff.mp h
  obtain ⟨drafts, hdrafts, h⟩ := except_bind_eq_ok_iff.mp h
  rw [except_pure_eq_ok_iff] at h
  obtain ⟨hname, block, rfl⟩ := opening?_eq hd
  have hmethods := join_methods? (builderType_ne_empty hname) hdrafts
  rw [h]
  refine ⟨rfl, ?_⟩
  simp only
  -- the class is the only open block, so every method stands at depth one
  rw [foldl_addMethod, render_of_one_open ⟨block, rfl⟩, SourceDraft.text_append]
  simp only [SourceDraft.depth, BlockStack.depth, List.length_cons, List.length_nil, Nat.zero_add,
    hmethods, builderText, String.append_assoc]

/-- **The text of a generated builder**, for every bean and every style: exactly `builderText` of
its members, which have different fields and different setters. -/
theorem text_generate? {source : BuilderSource} (h : s.generate? c b = .ok source) :
    source.text = s.builderText b (c.builderMembers b) ∧
      ((c.builderMembers b).map Member.field).Nodup ∧
      ((c.builderMembers b).map fun m => setterName m.accessor).Nodup :=
  ⟨(source_of_generate? h).2, c.nodup_field_builderMembers b, c.nodup_setterName_builderMembers b⟩

/-- A bean with a collection, a primitive and an accessor that is no member. -/
def orderBean : Bean where
  simpleName := "Order"
  package := some "shop"
  accessors := [{ name := "getTags", returnType := some "List<String>" },
    { name := "getId", returnType := some "long" },
    { name := "isPaid", returnType := some "boolean" }]

theorem text_generate?_orderBean :
    ∃ source, ({} : BuilderStyle).generate? {} orderBean = .ok source ∧
      source.text = ({} : BuilderStyle).builderText orderBean
        [⟨"getTags", "tags", "List<String>", .collection, some "String",
            some "new java.util.ArrayList<>()"⟩,
          ⟨"getId", "id", "long", .primitive, none, none⟩] := by
  have hok : (({} : BuilderStyle).generate? {} orderBean).isOk = true := rfl
  have hmembers : ({} : Containers).builderMembers orderBean =
      [⟨"getTags", "tags", "List<String>", .collection, some "String",
          some "new java.util.ArrayList<>()"⟩,
        ⟨"getId", "id", "long", .primitive, none, none⟩] := rfl
  cases h : ({} : BuilderStyle).generate? {} orderBean with
  | error e =>
    rw [h] at hok
    cases hok
  | ok source => exact ⟨source, rfl, hmembers ▸ (text_generate? h).1⟩

end Whole
end BuilderStyle
end BeanBuilder
