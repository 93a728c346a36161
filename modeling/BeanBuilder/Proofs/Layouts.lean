import BeanBuilder.Proofs.UnusableNames

/-! # Builders in other layouts

The text of a builder is written with line ends and with units of indentation, and with names and
types of the bean between them.  Where none of these has a line feed or a tabulator in it
(`LayoutFree`), every line feed of a text in the default layout is the end of a line and every
tabulator is a unit.  Another layout then puts its own separator and its own unit in their places,
whatever these are, and changes nothing else (`Draft.Layout.relaid`): section by section
(`relaid_builderText`), and so for the whole builder (`generate?_eq_map_relaid`).

The types of elements are parts of the types of the bean (`TypeText.element?_sublist`).  The names
of accessors are left out of the condition: one that has a line feed or a tabulator has a blank, and
a builder is refused for it in every layout.
-/
namespace BeanBuilder

/-! ## Elements are cut out of types -/

namespace TypeText

theorem trim_sublist (cs : List Char) : (Text.trim cs).Sublist cs := by
  have hend : ∀ w, (Text.trimEnd w).Sublist w := by
    intro w
    have hdrop := (List.dropWhile_sublist Text.isBlank (l := w.reverse)).reverse
    rwa [List.reverse_reverse] at hdrop
  exact (hend _).trans (List.dropWhile_sublist _)

theorem sublist_of_dropWhile_eq_cons {p : Char → Bool} {cs rest : List Char} {c : Char}
    (h : cs.dropWhile p = c :: rest) : rest.Sublist cs :=
  ((List.sublist_cons_self c rest).trans (h ▸ List.Sublist.refl (cs.dropWhile p))).trans
    (List.dropWhile_sublist p)

theorem bracketed?_sublist {cs inner : List Char} (h : bracketed? cs = some inner) :
    inner.Sublist cs := by
  unfold bracketed? at h
  split at h
  · cases h
  · rename_i after hopen
    have hafter := sublist_of_dropWhile_eq_cons hopen
    split at h
    · cases h
    · rename_i closed hclose
      rw [Option.some.injEq] at h
      subst h
      have hinner := (sublist_of_dropWhile_eq_cons hclose).reverse
      rw [List.reverse_reverse] at hinner
      exact hinner.trans hafter

theorem sublist_of_mem_topPieces {depth : Int} {cs piece : List Char}
    (h : piece ∈ topPieces depth cs) : piece.Sublist cs := by
  induction cs generalizing depth piece with
  | nil =>
    rw [topPieces, List.mem_singleton] at h
    exact h ▸ List.Sublist.refl []
  | cons c rest ih =>
    rw [topPieces] at h
    split at h
    · rcases List.mem_cons.mp h with rfl | h
      · exact List.nil_sublist _
      · exact (ih h).cons c
    · split at h
      · rw [List.mem_singleton] at h
        exact h ▸ (List.nil_sublist rest).cons_cons c
      · rename_i first pieces hpieces
        rcases List.mem_cons.mp h with rfl | h
        · exact (ih (hpieces ▸ List.mem_cons_self)).cons_cons c
        · exact (ih (hpieces ▸ List.mem_cons_of_mem _ h)).cons c

theorem exists_trim_of_mem_trimmedPieces {pieces : List (List Char)} {w : List Char}
    (h : w ∈ trimmedPieces pieces) : ∃ piece ∈ pieces, w = Text.trim piece := by
  induction pieces with
  | nil => exact absurd h List.not_mem_nil
  | cons piece rest ih =>
    cases rest with
    | nil =>
      rw [trimmedPieces] at h
      split at h
      · exact absurd h List.not_mem_nil
      · exact ⟨piece, List.mem_cons_self, List.mem_singleton.mp h⟩
    | cons next more =>
      rw [trimmedPieces] at h
      · rcases List.mem_cons.mp h with rfl | h
        · exact ⟨piece, List.mem_cons_self, rfl⟩
        · obtain ⟨piece', hpiece, hw⟩ := ih h
          exact ⟨piece', List.mem_cons_of_mem _ hpiece, hw⟩
      · exact List.cons_ne_nil _ _

theorem toList_sublist_of_mem_arguments {type argument : String}
    (h : argument ∈ arguments type) : argument.toList.Sublist type.toList := by
  unfold arguments at h
  split at h
  · exact absurd h List.not_mem_nil
  · rename_i inner hinner
    obtain ⟨w, hw, rfl⟩ := List.mem_map.mp h
    obtain ⟨piece, hpiece, rfl⟩ := exists_trim_of_mem_trimmedPieces hw
    rw [String.toList_ofList]
    exact ((trim_sublist _).trans (sublist_of_mem_topPieces hpiece)).trans
      (bracketed?_sublist hinner)

theorem lowerBound?_sublist {afterMark : List Char} {element : String}
    (h : lowerBound? afterMark = some element) : element.toList.Sublist afterMark := by
  unfold lowerBound? at h
  split at h
  · cases h
  · rename_i bound hbound
    simp only at h
    split at h
    · cases h
    · rw [Option.some.injEq] at h
      subst h
      have hrest : bound.Sublist (Text.trim afterMark) := by
        rw [Text.eq_append_of_afterStart? hbound]
        exact List.sublist_append_right _ _
      rw [String.toList_ofList]
      exact ((trim_sublist _).trans hrest).trans (trim_sublist _)

/-- **The type of an element is a part of the type** of its container. -/
theorem element?_sublist {type element : String} (h : element? type = some element) :
    element.toList.Sublist type.toList := by
  unfold element? at h
  split at h
  · rename_i argument harguments
    have hargument : argument.toList.Sublist type.toList :=
      toList_sublist_of_mem_arguments (harguments ▸ List.mem_singleton_self argument)
    split at h
    · rename_i afterMark hmark
      refine ((lowerBound?_sublist h).trans (List.sublist_cons_self '?' afterMark)).trans ?_
      exact hmark ▸ hargument
    · rw [Option.some.injEq] at h
      exact h ▸ hargument
  · cases h

end TypeText

/-! ## Texts without line feeds and tabulators -/

namespace Draft

variable {text other : String}

/-- A text that holds neither a line feed nor a tabulator. -/
def LayoutFree (text : String) : Prop :=
  ∀ c ∈ text.toList, c ≠ '\n' ∧ c ≠ '\t'

instance : DecidablePred LayoutFree := fun text => List.decidableBAll _ text.toList

theorem layoutFree_append_iff :
    LayoutFree (text ++ other) ↔ LayoutFree text ∧ LayoutFree other := by
  simp only [LayoutFree, String.toList_append, List.forall_mem_append]

theorem LayoutFree.of_subset (h : LayoutFree text) (hsub : other.toList ⊆ text.toList) :
    LayoutFree other :=
  fun c hc => h c (hsub hc)

/-- Line feeds and tabulators are blanks. -/
theorem LayoutFree.of_not_hasBlank (h : ¬HasBlank text) : LayoutFree text := by
  intro c hc
  constructor
  · rintro rfl
    exact h ⟨_, hc, by decide⟩
  · rintro rfl
    exact h ⟨_, hc, by decide⟩

theorem LayoutFree.qualify {package : Option String} {name : String}
    (hpackage : ∀ p ∈ package, LayoutFree p) (hname : LayoutFree name) :
    LayoutFree (qualify package name) := by
  cases package with
  | none => exact hname
  | some p =>
    rw [BeanBuilder.qualify]
    split
    · exact hname
    · exact layoutFree_append_iff.mpr
        ⟨layoutFree_append_iff.mpr ⟨hpackage p rfl, by decide⟩, hname⟩

theorem LayoutFree.setterName (h : LayoutFree text) : LayoutFree (setterName text) :=
  layoutFree_append_iff.mpr ⟨by decide, h.of_subset fun _ => Java.mem_toList_of_mem_suffixOf⟩

theorem LayoutFree.adderName (h : LayoutFree text) : LayoutFree (adderName text) :=
  layoutFree_append_iff.mpr ⟨by decide, h.of_subset fun _ hc =>
    Java.mem_toList_of_mem_suffixOf (Java.mem_toList_of_mem_singular hc)⟩

/-! ## Laying a text out anew -/

namespace Layout

variable (l : Layout)

/-- A text with every line feed replaced by the separator of a layout and every tabulator by its
unit of indentation.  What is put in is not looked at again. -/
def relaid (text : String) : String :=
  String.ofList (text.toList.flatMap fun c =>
    if c = '\n' then l.lineSeparator.toList
    else if c = '\t' then l.indentUnit.toList
    else [c])

@[simp] theorem relaid_append (text other : String) :
    l.relaid (text ++ other) = l.relaid text ++ l.relaid other := by
  simp [relaid]

@[simp] theorem relaid_lineFeed : l.relaid "\n" = l.lineSeparator := by
  simp [relaid]

@[simp] theorem relaid_tabulator : l.relaid "\t" = l.indentUnit := by
  simp [relaid]

theorem relaid_of_layoutFree (h : LayoutFree text) : l.relaid text = text := by
  have hsame : (text.toList.flatMap fun c =>
      if c = '\n' then l.lineSeparator.toList
      else if c = '\t' then l.indentUnit.toList
      else [c]) = text.toList.flatMap fun c => [c] := by
    refine List.flatMap_congr fun c hc => ?_
    rw [if_neg (h c hc).1, if_neg (h c hc).2]
  rw [relaid, hsame, List.flatMap_singleton', String.ofList_toList]

theorem relaid_join (texts : List String) :
    l.relaid (String.join texts) = String.join (texts.map l.relaid) := by
  induction texts with
  | nil => rfl
  | cons text rest ih => rw [String.join_cons, relaid_append, ih, List.map_cons, String.join_cons]

/-- Texts that are laid out anew one by one are laid out anew together. -/
theorem relaid_join_map {α : Type} {f g : α → String} {xs : List α}
    (h : ∀ x ∈ xs, l.relaid (f x) = g x) :
    l.relaid (String.join (xs.map f)) = String.join (xs.map g) := by
  rw [relaid_join, List.map_map]
  exact congrArg String.join (List.map_congr_left h)

theorem relaid_memberLine (h : LayoutFree text) :
    l.relaid (Layout.memberLine {} text) = l.memberLine text := by
  change l.relaid ("\t" ++ text ++ "\n") = _
  rw [relaid_append, relaid_append, relaid_tabulator, relaid_lineFeed, l.relaid_of_layoutFree h,
    memberLine]

theorem relaid_statementLine (h : LayoutFree text) :
    l.relaid (Layout.statementLine {} text) = l.statementLine text := by
  change l.relaid ("\t" ++ "\t" ++ text ++ "\n") = _
  rw [relaid_append, relaid_append, relaid_append, relaid_tabulator, relaid_lineFeed,
    l.relaid_of_layoutFree h, statementLine]

/-- A method whose head and statements fit any layout. -/
theorem relaid_methodBlock (head : String) (statements : List String) (hhead : LayoutFree head)
    (hstatements : ∀ line ∈ statements, LayoutFree line) :
    l.relaid (Layout.methodBlock {} head statements) = l.methodBlock head statements := by
  have hlines : l.relaid (String.join (statements.map (Layout.statementLine {}))) =
      String.join (statements.map l.statementLine) :=
    l.relaid_join_map fun line hline => l.relaid_statementLine (hstatements line hline)
  have hopen : LayoutFree (head ++ r" {") := layoutFree_append_iff.mpr ⟨hhead, by decide⟩
  rw [methodBlock, relaid_append, relaid_append, relaid_append, hlines, l.relaid_memberLine hopen,
    l.relaid_memberLine (by decide), relaid_lineFeed, methodBlock]

end Layout
end Draft

/-! ## Members -/

open Draft

/-- A member all of whose texts fit any layout. -/
structure Member.FitsLayouts (m : Member) : Prop where
  accessor : LayoutFree m.accessor
  field : LayoutFree m.field
  type : LayoutFree m.type
  element : ∀ element ∈ m.element, LayoutFree element
  initial : ∀ value ∈ m.initial, LayoutFree value

theorem layoutFree_of_mem_initialValue {c : Containers} {type value : String} {category : Category}
    (h : value ∈ c.initialValue type category) : LayoutFree value := by
  have hvalues : value ∈ ["new java.util.ArrayList<>()", "new java.util.HashSet<>()", "\"\"",
      "null"] := by
    cases category with
    | collection =>
      simp only [Containers.initialValue] at h
      split at h <;> simp_all
    | primitive => cases h
    | reference =>
      simp only [Containers.initialValue] at h
      split at h <;> simp_all
  simp only [List.mem_cons, List.not_mem_nil, or_false] at hvalues
  rcases hvalues with rfl | rfl | rfl | rfl <;> decide

/-- **The members of a bean fit any layout** where its types do and no accessor has a blank. -/
theorem Containers.fitsLayouts_of_mem_builderMembers {c : Containers} {b : Bean} {m : Member}
    (htypes : ∀ a ∈ b.accessors, ∀ type ∈ a.returnType, LayoutFree type)
    (hm : m ∈ c.builderMembers b) (hblank : ¬HasBlank m.accessor) : m.FitsLayouts := by
  obtain ⟨a, ha, hcand, type, htype, rfl⟩ := exists_candidate_of_mem_builderMembers hm
  have hfree : LayoutFree type := htypes a ha type htype
  refine ⟨.of_not_hasBlank hblank, .of_not_hasBlank ?_, hfree, ?_, ?_⟩
  · exact (not_or.mp (mt (fieldName_unusable_iff hcand).mp hblank)).2
  · intro element helement
    simp only [member] at helement
    split at helement
    · exact hfree.of_subset (TypeText.element?_sublist helement).subset
    · cases helement
  · exact fun value hvalue => layoutFree_of_mem_initialValue hvalue

/-! ## The sections of a builder -/

namespace BuilderStyle

/-- The style with the layout that builders have by default: lines end in a line feed and are
indented by tabulators. -/
def inDefaultLayout (s : BuilderStyle) : BuilderStyle :=
  { s with layout := ⟨"\n", "\t"⟩ }

/-- The names of a bean and of its builder fit any layout. -/
structure FitsLayouts (s : BuilderStyle) (b : Bean) : Prop where
  simpleName : LayoutFree b.simpleName
  package : ∀ p ∈ b.package, LayoutFree p
  builderSuffix : LayoutFree s.builderSuffix
  factoryName : LayoutFree s.factoryName

section Sections

variable {s : BuilderStyle} {b : Bean} {m : Member} {members : List Member}

theorem FitsLayouts.builderName (h : s.FitsLayouts b) : LayoutFree (s.builderName b) :=
  layoutFree_append_iff.mpr ⟨h.simpleName, h.builderSuffix⟩

theorem FitsLayouts.builderType (h : s.FitsLayouts b) : LayoutFree (s.builderType b) :=
  .qualify h.package h.builderName

theorem FitsLayouts.qualifiedName (h : s.FitsLayouts b) : LayoutFree b.qualifiedName :=
  .qualify h.package h.simpleName

theorem relaid_packagePart (h : s.FitsLayouts b) :
    s.layout.relaid (s.inDefaultLayout.packagePart b) = s.packagePart b := by
  rw [packagePart, packagePart]
  cases hp : b.package with
  | none => rfl
  | some p =>
    have hline : LayoutFree ("package " ++ p ++ ";") := by
      simp +decide [layoutFree_append_iff, h.package p hp]
    simp only
    split
    · rfl
    · rw [Layout.relaid_append, Layout.relaid_append, Layout.relaid_of_layoutFree _ hline]
      simp [inDefaultLayout]

theorem relaid_fieldLine (hm : m.FitsLayouts) :
    s.layout.relaid (s.inDefaultLayout.fieldLine m) = s.fieldLine m := by
  have hfront : LayoutFree ("private " ++ m.type ++ " " ++ m.field) := by
    simp +decide only [layoutFree_append_iff, hm.type, hm.field, and_true]
  rw [fieldLine, fieldLine]
  refine s.layout.relaid_memberLine (layoutFree_append_iff.mpr ⟨?_, by decide⟩)
  refine layoutFree_append_iff.mpr ⟨hfront, ?_⟩
  cases hvalue : m.initial with
  | none => decide
  | some value => exact layoutFree_append_iff.mpr ⟨by decide, hm.initial value hvalue⟩

theorem relaid_fluentBlock (h : s.FitsLayouts b) {name type parameter statement : String}
    (hname : LayoutFree name) (htype : LayoutFree type) (hparameter : LayoutFree parameter)
    (hstatement : LayoutFree statement) :
    s.layout.relaid (s.inDefaultLayout.fluentBlock b name type parameter statement) =
      s.fluentBlock b name type parameter statement := by
  refine s.layout.relaid_methodBlock ("public " ++ s.builderType b ++ " " ++ name ++ "("
    ++ type ++ " " ++ parameter ++ ")") [statement, "return this;"] ?_ ?_
  · simp +decide only [layoutFree_append_iff, h.builderType, hname, htype, hparameter, and_true]
  · intro line hline
    rcases List.mem_pair.mp hline with rfl | rfl
    · exact hstatement
    · decide

theorem relaid_adderBlock (h : s.FitsLayouts b) (hm : m.FitsLayouts) {element : String}
    (helement : LayoutFree element) :
    s.layout.relaid (s.inDefaultLayout.adderBlock b m element) = s.adderBlock b m element := by
  refine relaid_fluentBlock h hm.accessor.adderName helement (by decide) ?_
  simp +decide only [layoutFree_append_iff, hm.field, and_true]

theorem relaid_setterBlock (h : s.FitsLayouts b) (hm : m.FitsLayouts) :
    s.layout.relaid (s.inDefaultLayout.setterBlock b m) = s.setterBlock b m := by
  refine relaid_fluentBlock h hm.accessor.setterName hm.type (by decide) ?_
  simp +decide only [layoutFree_append_iff, hm.field, and_true]

theorem relaid_adderBlocks (h : s.FitsLayouts b) (hm : ∀ m ∈ members, m.FitsLayouts) :
    s.layout.relaid (String.join
      (members.filterMap fun m => m.addable?.map (s.inDefaultLayout.adderBlock b m))) =
      String.join (members.filterMap fun m => m.addable?.map (s.adderBlock b m)) := by
  rw [Layout.relaid_join, List.map_filterMap]
  refine congrArg String.join (List.filterMap_congr fun m hmem => ?_)
  rw [Option.map_map]
  refine Option.map_congr fun element helement => ?_
  have hadded : element ∈ m.element := by
    rw [Member.addable?] at helement
    split at helement
    · exact helement
    · cases helement
  exact relaid_adderBlock h (hm m hmem) ((hm m hmem).element element hadded)

theorem relaid_buildBlock (h : s.FitsLayouts b) (hm : ∀ m ∈ members, m.FitsLayouts) :
    s.layout.relaid (s.inDefaultLayout.buildBlock b members) = s.buildBlock b members := by
  refine s.layout.relaid_methodBlock ("public "
    ++ (if b.qualifiedName = "" then "void" else b.qualifiedName) ++ " build()")
    (buildStatements b.qualifiedName members) ?_ ?_
  · have htype : LayoutFree (if b.qualifiedName = "" then "void" else b.qualifiedName) := by
      split
      · decide
      · exact h.qualifiedName
    simp +decide only [layoutFree_append_iff, htype, and_true]
  · intro line hline
    rw [buildStatements, List.mem_append, List.mem_cons, List.mem_singleton] at hline
    rcases hline with (rfl | hcall) | rfl
    · simp +decide only [layoutFree_append_iff, h.qualifiedName, and_true]
    · obtain ⟨m, hmem, rfl⟩ := List.mem_map.mp hcall
      have hsetter := (hm m hmem).accessor.setterName
      simp +decide only [layoutFree_append_iff, hsetter, (hm m hmem).field, and_true]
    · decide

theorem relaid_factoryBlock (h : s.FitsLayouts b) :
    s.layout.relaid (s.inDefaultLayout.factoryBlock b) = s.factoryBlock b := by
  refine s.layout.relaid_methodBlock ("public static " ++ s.builderType b ++ " "
    ++ s.factoryName ++ "()") ["return new " ++ s.builderType b ++ "();"] ?_ ?_
  · simp +decide only [layoutFree_append_iff, h.builderType, h.factoryName, and_true]
  · intro line hline
    rw [List.mem_singleton] at hline
    subst hline
    simp +decide only [layoutFree_append_iff, h.builderType, and_true]

/-- **The text of a builder is the default text laid out anew.** -/
theorem relaid_builderText (h : s.FitsLayouts b) (hm : ∀ m ∈ members, m.FitsLayouts) :
    s.layout.relaid (s.inDefaultLayout.builderText b members) = s.builderText b members := by
  have hfields : s.layout.relaid (String.join (members.map s.inDefaultLayout.fieldLine)) =
      String.join (members.map s.fieldLine) :=
    s.layout.relaid_join_map fun m hmem => relaid_fieldLine (hm m hmem)
  have hsetters : s.layout.relaid (String.join (members.map (s.inDefaultLayout.setterBlock b))) =
      String.join (members.map (s.setterBlock b)) :=
    s.layout.relaid_join_map fun m hmem => relaid_setterBlock h (hm m hmem)
  have hclass : s.layout.relaid "public class " = "public class " :=
    s.layout.relaid_of_layoutFree (by decide)
  have hopen : s.layout.relaid r" {" = r" {" := s.layout.relaid_of_layoutFree (by decide)
  have hclose : s.layout.relaid r"}" = r"}" := s.layout.relaid_of_layoutFree (by decide)
  have hname : s.layout.relaid (s.inDefaultLayout.builderName b) = s.builderName b :=
    s.layout.relaid_of_layoutFree h.builderName
  have hend : s.layout.relaid s.inDefaultLayout.layout.lineSeparator = s.layout.lineSeparator :=
    s.layout.relaid_lineFeed
  simp only [builderText, Layout.relaid_append, relaid_packagePart h, hfields,
    relaid_adderBlocks h hm, hsetters, relaid_buildBlock h hm, relaid_factoryBlock h, hclass, hopen,
    hclose, hname, hend]

end Sections

/-! ## The whole builder -/

section Whole

variable {s : BuilderStyle} {c : Containers} {b : Bean}

/-- A generated builder, whole. -/
theorem eq_of_generate? {source : BuilderSource} (h : s.generate? c b = .ok source) :
    source = {
      qualifiedName := s.builderType b
      simpleName := s.builderName b
      package := b.package.filter (· ≠ "")
      text := s.builderText b (c.builderMembers b) } := by
  have htext := (source_of_generate? h).2
  obtain ⟨d, -, h⟩ := except_bind_eq_ok_iff.mp h
  obtain ⟨drafts, -, h⟩ := except_bind_eq_ok_iff.mp h
  rw [except_pure_eq_ok_iff] at h
  rw [← htext, h]

/-- **Builders in other layouts.**  Let the names of the bean and of its builder and the types that
the accessors return have no line feed and no tabulator.  Then a builder is refused in a layout
exactly when it is refused in the default one, and for the same name; and otherwise its text is the
default text with every line feed replaced by the separator and every tabulator by the unit of the
layout, all at once. -/
theorem generate?_eq_map_relaid (hname : LayoutFree b.simpleName)
    (hpackage : ∀ p ∈ b.package, LayoutFree p)
    (htypes : ∀ a ∈ b.accessors, ∀ type ∈ a.returnType, LayoutFree type)
    (hsuffix : LayoutFree s.builderSuffix) (hfactory : LayoutFree s.factoryName) :
    s.generate? c b = (s.inDefaultLayout.generate? c b).map fun source =>
      { source with text := s.layout.relaid source.text } := by
  have hfits : s.FitsLayouts b := ⟨hname, hpackage, hsuffix, hfactory⟩
  have hrefused := failsFor_generate? s c b
  have hdefault : FailsFor (s.inDefaultLayout.generate? c b) (s.unusableNames c b) :=
    failsFor_generate? s.inDefaultLayout c b
  cases h : s.generate? c b with
  | error e =>
    rw [(hdefault e).mpr ((hrefused e).mp h)]
    rfl
  | ok source =>
    have hnil := hrefused.eq_nil_iff.mpr ⟨source, h⟩
    obtain ⟨source', h'⟩ := hdefault.eq_nil_iff.mp hnil
    have hblank : ∀ m ∈ c.builderMembers b, ¬HasBlank m.accessor :=
      flatMap_memberReasons_eq_nil_iff.mp
        (List.append_eq_nil_iff.mp (List.append_eq_nil_iff.mp hnil).1).2
    have hmembers : ∀ m ∈ c.builderMembers b, m.FitsLayouts := fun m hm =>
      Containers.fitsLayouts_of_mem_builderMembers htypes hm (hblank m hm)
    rw [h', eq_of_generate? h, eq_of_generate? h', ← relaid_builderText hfits hmembers]
    rfl

/-- Lines end in a tabulator and a line feed and are indented by line feeds. -/
def crossedStyle : BuilderStyle where
  layout := ⟨"\t\n", "\n"⟩

theorem generate?_eq_map_relaid_orderBean :
    (LayoutFree orderBean.simpleName ∧ (∀ p ∈ orderBean.package, LayoutFree p) ∧
      (∀ a ∈ orderBean.accessors, ∀ type ∈ a.returnType, LayoutFree type) ∧
      LayoutFree crossedStyle.builderSuffix ∧ LayoutFree crossedStyle.factoryName) ∧
    ∃ source, crossedStyle.inDefaultLayout.generate? {} orderBean = .ok source ∧
      crossedStyle.generate? {} orderBean =
        .ok { source with text := crossedStyle.layout.relaid source.text } := by
  have hname : LayoutFree orderBean.simpleName := by decide
  have hpackage : ∀ p ∈ orderBean.package, LayoutFree p := by decide
  have htypes : ∀ a ∈ orderBean.accessors, ∀ type ∈ a.returnType, LayoutFree type := by decide
  have hsuffix : LayoutFree crossedStyle.builderSuffix := by decide
  have hfactory : LayoutFree crossedStyle.factoryName := by decide
  have hrelaid := @generate?_eq_map_relaid crossedStyle {} orderBean hname hpackage htypes hsuffix
    hfactory
  have hok : (crossedStyle.inDefaultLayout.generate? {} orderBean).isOk = true := rfl
  refine ⟨⟨hname, hpackage, htypes, hsuffix, hfactory⟩, ?_⟩
  cases h : crossedStyle.inDefaultLayout.generate? {} orderBean with
  | error e =>
    rw [h] at hok
    cases hok
  | ok source =>
    rw [h] at hrelaid
    exact ⟨source, rfl, hrelaid⟩

end Whole
end BuilderStyle
end BeanBuilder
