import BeanBuilder.Proofs.BuilderText
import BeanBuilder.Proofs.Draft.Refusals
import BeanBuilder.Proofs.Java.BuilderNames

/-! # The names that a builder is refused for

A builder is written step by step, and each step may check a name.  A step that fails for the first
of some reasons (`FailsFor`) can be put in front of another one: the reasons of the second step
stand behind those of the first (`FailsFor.bind`).

The suffix of an accessor is in the names of its field, of its adder and of its setter.  None of
them has a blank that the accessor does not have, and the field loses none, so the fields answer for
all the methods that are named after them.  What a builder is refused for is therefore told by the
package, the class, the accessors of its members and the factory alone
(`BuilderStyle.generate?_refused_iff`).
-/
namespace BeanBuilder

/-! ## Failing for the first reason -/

section FirstReason

variable {ε α β : Type} {x : Except ε α} {f : α → Except ε β} {reasons more : List ε}

/-- A step fails for the first of some reasons, and only where there is one. -/
def FailsFor (x : Except ε α) (reasons : List ε) : Prop :=
  ∀ e, x = .error e ↔ reasons.head? = some e

namespace FailsFor

theorem ok (a : α) : FailsFor (.ok a : Except ε α) [] :=
  fun _ => ⟨fun h => (nomatch h), fun h => (nomatch h)⟩

theorem eq_nil_iff (h : FailsFor x reasons) : reasons = [] ↔ ∃ a, x = .ok a := by
  cases x with
  | error e =>
    have hhead := (h e).mp rfl
    refine ⟨fun hnil => ?_, fun ⟨_, ha⟩ => (nomatch ha)⟩
    rw [hnil] at hhead
    exact nomatch hhead
  | ok a =>
    refine ⟨fun _ => ⟨a, rfl⟩, fun _ => ?_⟩
    rw [← List.head?_eq_none_iff, Option.eq_none_iff_forall_ne_some]
    exact fun e he => nomatch (h e).mpr he

/-- Two steps: the second one is reached where there is no reason against the first. -/
theorem bind (h : FailsFor x reasons)
    (hf : ∀ a, reasons = [] → x = .ok a → FailsFor (f a) more) :
    FailsFor (x >>= f) (reasons ++ more) := by
  cases hx : x with
  | error e =>
    have hhead := (h e).mp hx
    intro e'
    rw [List.head?_append, hhead, Option.some_or, Option.some.injEq]
    exact ⟨fun herr => Except.error.inj herr, fun herr => congrArg _ herr⟩
  | ok a =>
    have hnil := h.eq_nil_iff.mpr ⟨a, hx⟩
    rw [hnil, List.nil_append]
    exact hf a hnil hx

/-- A step that cannot fail adds no reason. -/
theorem bind_ok (h : FailsFor x reasons) (hf : ∀ a, ∃ b, f a = .ok b) :
    FailsFor (x >>= f) reasons := by
  have hboth : FailsFor (x >>= f) (reasons ++ []) := h.bind fun a _ _ => by
    obtain ⟨b, hb⟩ := hf a
    exact hb ▸ ok b
  rwa [List.append_nil] at hboth

end FailsFor

end FirstReason

/-! ## Names with blanks -/

section Names

variable {name stem suffix position : String}

/-- A text that has a blank in it. -/
def HasBlank (text : String) : Prop :=
  ∃ c ∈ text.toList, Text.isBlank c = true

instance : DecidablePred HasBlank := fun text => List.decidableBEx _ text.toList

/-- The reason against a name that stands at some place, if there is one. -/
def unusable (position name : String) : List InvalidLiteral :=
  if name = "" ∨ HasBlank name then [⟨some name, position⟩] else []

theorem unusable_eq_nil_iff : unusable position name = [] ↔ ¬(name = "" ∨ HasBlank name) := by
  simp [unusable]

theorem isLiteral_iff : isLiteral name = true ↔ ¬(name = "" ∨ HasBlank name) := by
  rw [← not_iff_not, isLiteral_ne_true_iff, not_not, HasBlank]

theorem failsFor_requireLiteral (name position : String) :
    FailsFor (requireLiteral name position) (unusable position name) := by
  intro e
  unfold requireLiteral unusable
  by_cases h : name = "" ∨ HasBlank name
  · have hlit : ¬isLiteral name = true := fun hl => isLiteral_iff.mp hl h
    rw [if_pos h, if_neg hlit, Except.error.injEq, List.head?_cons, Option.some.injEq]
  · rw [if_neg h, if_pos (isLiteral_iff.mpr h)]
    exact FailsFor.ok () e

/-- A stem makes a literal of any text without blanks. -/
theorem isLiteral_stem (hstem : isLiteral stem = true) (hsuffix : ¬HasBlank suffix) :
    isLiteral (stem ++ suffix) = true := by
  obtain ⟨hne, hblank⟩ := not_or.mp (isLiteral_iff.mp hstem)
  refine isLiteral_iff.mpr (not_or.mpr ⟨?_, ?_⟩)
  · exact fun h => hne (String.append_eq_empty_iff.mp h).1
  · rintro ⟨c, hc, hb⟩
    rw [String.toList_append, List.mem_append] at hc
    exact hc.elim (fun hc => hblank ⟨c, hc, hb⟩) fun hc => hsuffix ⟨c, hc, hb⟩

theorem isLiteral_setterName (h : ¬HasBlank name) : isLiteral (setterName name) = true :=
  isLiteral_stem (by decide) fun ⟨c, hc, hb⟩ => h ⟨c, Java.mem_toList_of_mem_suffixOf hc, hb⟩

theorem isLiteral_adderName (h : ¬HasBlank name) : isLiteral (adderName name) = true :=
  isLiteral_stem (by decide) fun ⟨c, hc, hb⟩ =>
    h ⟨c, Java.mem_toList_of_mem_suffixOf (Java.mem_toList_of_mem_singular hc), hb⟩

/-- In front of a text there may be anything without blanks. -/
theorem exists_isBlank_append_iff {v rest : List Char} (hv : ∀ c ∈ v, Text.isBlank c = false) :
    (∃ c ∈ v ++ rest, Text.isBlank c = true) ↔ ∃ c ∈ rest, Text.isBlank c = true := by
  constructor
  · rintro ⟨c, hc, hb⟩
    rcases List.mem_append.mp hc with hfront | hrest
    · exact absurd hb (by rw [hv c hfront]; decide)
    · exact ⟨c, hrest, hb⟩
  · rintro ⟨c, hc, hb⟩
    exact ⟨c, List.mem_append_right _ hc, hb⟩

theorem isBlank_of_isUpper {letter : Char} (h : Text.isUpper letter = true) :
    Text.isBlank letter = false := by
  refine Java.isBlank_of_isIdentifierPart ?_
  rw [Java.isIdentifierPart, Java.isIdentifierStart, Java.covered_startRuns_of_covered h,
    Bool.true_or]

/-- Lower-casing an upper-case letter leaves something, and no blanks. -/
theorem lower_ne_nil_and_isBlank {letter : Char} (h : Text.isUpper letter = true) :
    Text.lower letter ≠ [] ∧ ∀ c ∈ Text.lower letter, Text.isBlank c = false := by
  obtain ⟨d, w, hlower, hd, hw⟩ := Java.exists_lower_eq_cons h
  rw [hlower]
  refine ⟨List.cons_ne_nil d w, ?_⟩
  intro c hc
  refine Java.isBlank_of_isIdentifierPart ?_
  rcases List.mem_cons.mp hc with rfl | hc
  · rw [Java.isIdentifierPart, hd, Bool.true_or]
  · exact hw c hc

/-- **A field has the blanks of its accessor**: the first letter of the suffix, which is
lower-cased, neither is a blank nor becomes one, and the name of the field is not empty. -/
theorem fieldName_unusable_iff {a : Accessor} (ha : a.isCandidate = true) :
    (fieldName a.name = "" ∨ HasBlank (fieldName a.name)) ↔ HasBlank a.name := by
  obtain ⟨letter, rest, hname, hupper, -, hfield⟩ := Accessor.exists_letter_of_isCandidate ha
  obtain ⟨hsome, hlower⟩ := lower_ne_nil_and_isBlank hupper
  have hne : fieldName a.name ≠ "" := by
    rw [ne_eq, ← String.toList_eq_nil_iff, hfield]
    exact fun h => hsome (List.append_eq_nil_iff.mp h).1
  have hstem : ∀ c ∈ ['g', 'e', 't'] ++ [letter], Text.isBlank c = false := by
    intro c hc
    rcases List.mem_append.mp hc with hc | hc
    · simp only [List.mem_cons, List.not_mem_nil, or_false] at hc
      rcases hc with rfl | rfl | rfl <;> decide
    · exact List.mem_singleton.mp hc ▸ isBlank_of_isUpper hupper
  -- on both sides the blanks are those behind the first letter of the suffix
  rw [or_iff_right hne, HasBlank, HasBlank, hfield, exists_isBlank_append_iff hlower, hname]
  exact (exists_isBlank_append_iff hstem).symm

end Names

/-! ## The steps of a builder -/

namespace BuilderStyle
open Draft

variable {s : BuilderStyle} {c : Containers} {b : Bean} {m : Member} {members : List Member}

/-- The reasons against the package of a bean. -/
def packageReasons (b : Bean) : List InvalidLiteral :=
  (b.package.toList.filter (· ≠ "")).flatMap (unusable "package")

/-- The reason against a member: the field that takes over a blank of its accessor. -/
def memberReasons (m : Member) : List InvalidLiteral :=
  if HasBlank m.accessor then [⟨some m.field, "field"⟩] else []

/-- The names that a builder cannot have, with the places where they would stand: the package, the
class, the fields of the members that are left, in their order, and the factory. -/
def unusableNames (s : BuilderStyle) (c : Containers) (b : Bean) : List InvalidLiteral :=
  packageReasons b ++ unusable "class" (s.builderName b)
    ++ (c.builderMembers b).flatMap memberReasons ++ unusable "method" s.factoryName

theorem packageReasons_eq_nil_iff :
    packageReasons b = [] ↔ ¬∃ p, b.package = some p ∧ p ≠ "" ∧ HasBlank p := by
  cases hp : b.package with
  | none => simp [packageReasons, hp]
  | some p => simp +contextual [packageReasons, hp, unusable_eq_nil_iff]

theorem flatMap_memberReasons_eq_nil_iff :
    members.flatMap memberReasons = [] ↔ ∀ m ∈ members, ¬HasBlank m.accessor := by
  simp [memberReasons]

theorem failsFor_definePackage? (d : SourceDraft) (b : Bean) :
    FailsFor (d.definePackage? b.package) (packageReasons b) := by
  rw [packageReasons]
  cases b.package with
  | none => exact .ok d
  | some p =>
    by_cases hp : p = ""
    · simp only [hp, SourceDraft.definePackage?, if_true]
      exact .ok d
    · have hreasons : ((some p).toList.filter (· ≠ "")).flatMap (unusable "package") =
          unusable "package" p := by simp [hp]
      rw [hreasons, SourceDraft.definePackage?]
      simp only [hp, if_false]
      exact (failsFor_requireLiteral p "package").bind_ok fun _ => ⟨_, rfl⟩

theorem failsFor_defineClass? (d : SourceDraft) (name : String) :
    FailsFor (d.defineClass? .everyone name none) (unusable "class" name) :=
  (failsFor_requireLiteral name "class").bind_ok fun _ => ⟨_, rfl⟩

theorem failsFor_addField? (d : SourceDraft) (m : Member) :
    FailsFor (d.addField? .ownClass m.type m.field m.initial) (unusable "field" m.field) :=
  (failsFor_requireLiteral m.field "field").bind_ok fun _ => ⟨_, rfl⟩

theorem failsFor_writeFields? (d : SourceDraft) (members : List Member) :
    FailsFor (writeFields? d members) (members.flatMap fun m => unusable "field" m.field) := by
  induction members generalizing d with
  | nil => exact .ok d
  | cons m rest ih =>
    rw [writeFields?, List.flatMap_cons]
    exact (failsFor_addField? d m).bind fun d' _ _ => ih d'

theorem unusable_field_of_mem_builderMembers (hm : m ∈ c.builderMembers b) :
    unusable "field" m.field = memberReasons m := by
  obtain ⟨a, -, ha, type, -, rfl⟩ := Containers.exists_candidate_of_mem_builderMembers hm
  exact if_congr (fieldName_unusable_iff ha) rfl rfl

/-- What stands above the fields of a builder fails for the package or the class. -/
theorem failsFor_header? (s : BuilderStyle) (b : Bean) :
    FailsFor (s.header? b) (packageReasons b ++ unusable "class" (s.builderName b)) :=
  (failsFor_definePackage? _ b).bind fun d _ _ => failsFor_defineClass? d _

/-- What stands above the methods of a builder fails for the package, the class or a member. -/
theorem failsFor_opening? (s : BuilderStyle) (c : Containers) (b : Bean) :
    FailsFor (s.opening? b (c.builderMembers b))
      (packageReasons b ++ unusable "class" (s.builderName b)
        ++ (c.builderMembers b).flatMap memberReasons) := by
  have hfields : ((c.builderMembers b).flatMap fun m => unusable "field" m.field) =
      (c.builderMembers b).flatMap memberReasons :=
    List.flatMap_congr fun m hm => unusable_field_of_mem_builderMembers hm
  rw [← hfields]
  exact (failsFor_header? s b).bind fun d _ _ => failsFor_writeFields? d _

/-! ## The methods -/

theorem exists_fluentMethod? {name parameter : String} (hname : isLiteral name = true)
    (hparameter : isLiteral parameter = true) (builderType type statement : String) :
    ∃ draft, fluentMethod? name builderType type parameter statement = .ok draft :=
  ⟨_, fluentMethod?_eq_ok_iff.mpr ⟨⟨hname, hparameter⟩, rfl⟩⟩

/-- **A setter is refused for nothing** that its field is not refused for. -/
theorem exists_setter? (h : ¬HasBlank m.accessor) (builderType : String) :
    ∃ draft, setter? builderType m = .ok draft :=
  exists_fluentMethod? (isLiteral_setterName h) (by decide) _ _ _

/-- **An adder is refused for nothing** that its field is not refused for. -/
theorem exists_adder? (h : ¬HasBlank m.accessor) (builderType : String) :
    ∃ draft, adder? builderType m = .ok draft := by
  rw [adder?]
  split
  · rename_i element _ _
    obtain ⟨draft, hdraft⟩ := exists_fluentMethod? (isLiteral_adderName h)
      (by decide : isLiteral "item" = true) builderType element
      ("this." ++ m.field ++ ".add(item);")
    exact ⟨some draft, by rw [hdraft]; rfl⟩
  · exact ⟨none, rfl⟩

theorem failsFor_factoryMethod? (name builderType : String) :
    FailsFor (factoryMethod? name builderType) (unusable "method" name) := by
  have hpublic : FailsFor (publicMethod? name builderType) (unusable "method" name) :=
    ((failsFor_requireLiteral name "method").bind_ok fun _ => ⟨_, rfl⟩).bind_ok fun _ => ⟨_, rfl⟩
  exact hpublic.bind_ok fun _ => ⟨_, rfl⟩

/-- The methods of a builder fail for the factory alone, where no accessor holds a blank. -/
theorem failsFor_methods? (s : BuilderStyle) (b : Bean)
    (h : ∀ m ∈ members, ¬HasBlank m.accessor) :
    FailsFor (s.methods? b members) (unusable "method" s.factoryName) := by
  obtain ⟨adders, hadders⟩ :=
    exists_mapM_eq_ok fun m hm => exists_adder? (h m hm) (s.builderType b)
  obtain ⟨setters, hsetters⟩ :=
    exists_mapM_eq_ok fun m hm => exists_setter? (h m hm) (s.builderType b)
  rw [methods?, hadders, except_ok_bind, hsetters, except_ok_bind, buildMethod?_eq, except_ok_bind]
  exact (failsFor_factoryMethod? _ _).bind_ok fun _ => ⟨_, rfl⟩

/-- **A builder is refused for the first name that it cannot have.** -/
theorem failsFor_generate? (s : BuilderStyle) (c : Containers) (b : Bean) :
    FailsFor (s.generate? c b) (s.unusableNames c b) := by
  refine (failsFor_opening? s c b).bind fun d hnil _ => ?_
  have hblank := flatMap_memberReasons_eq_nil_iff.mp (List.append_eq_nil_iff.mp hnil).2
  exact (failsFor_methods? s b hblank).bind_ok fun _ => ⟨_, rfl⟩

theorem unusableNames_eq_nil_iff :
    s.unusableNames c b = [] ↔
      ¬((∃ p, b.package = some p ∧ p ≠ "" ∧ HasBlank p) ∨
        (b.simpleName ++ s.builderSuffix = "" ∨ HasBlank (b.simpleName ++ s.builderSuffix)) ∨
        (∃ m ∈ c.builderMembers b, HasBlank m.accessor) ∨
        (s.factoryName = "" ∨ HasBlank s.factoryName)) := by
  simp only [unusableNames, List.append_eq_nil_iff, packageReasons_eq_nil_iff,
    unusable_eq_nil_iff, flatMap_memberReasons_eq_nil_iff, builderName, not_or, not_exists, not_and,
    and_assoc]

/-- **What a builder is refused for**, for every bean, all containers and every style.  It is
refused exactly when the package is not empty and holds a blank, or the name of the class is empty
or holds a blank, or the accessor of a member that is left holds one, or the name of the factory is
empty or holds one; and then for the first of these in this order.  So wherever the package, the
class and the fields are accepted, no adder and no setter is refused, neither for its name nor for
that of its parameter. -/
theorem generate?_refused_iff (s : BuilderStyle) (c : Containers) (b : Bean) :
    ((∃ e, s.generate? c b = .error e) ↔
      (∃ p, b.package = some p ∧ p ≠ "" ∧ HasBlank p) ∨
      (b.simpleName ++ s.builderSuffix = "" ∨ HasBlank (b.simpleName ++ s.builderSuffix)) ∨
      (∃ m ∈ c.builderMembers b, HasBlank m.accessor) ∨
      (s.factoryName = "" ∨ HasBlank s.factoryName)) ∧
    (∀ e, s.generate? c b = .error e ↔ (s.unusableNames c b).head? = some e) ∧
    ¬∃ m ∈ c.builderMembers b, (∃ d, s.opening? b (c.builderMembers b) = .ok d) ∧
      ((∃ e, adder? (s.builderType b) m = .error e) ∨
        ∃ e, setter? (s.builderType b) m = .error e) := by
  refine ⟨?_, failsFor_generate? s c b, ?_⟩
  · rw [exists_eq_error_iff, ← (failsFor_generate? s c b).eq_nil_iff, unusableNames_eq_nil_iff,
      not_not]
  · rintro ⟨m, hm, hopening, hrefused⟩
    have hnil := (failsFor_opening? s c b).eq_nil_iff.mpr hopening
    have hblank := flatMap_memberReasons_eq_nil_iff.mp (List.append_eq_nil_iff.mp hnil).2 m hm
    rw [exists_eq_error_iff, exists_eq_error_iff] at hrefused
    exact hrefused.elim (fun h => h (exists_adder? hblank _)) fun h => h (exists_setter? hblank _)

/-- Of two names that cannot be used, the one that comes first is reported: a field before the
factory. -/
example : ({ factoryName := "make it" } : BuilderStyle).generate? {}
    { simpleName := "Order"
      accessors := [{ name := "getUnit price", returnType := some "int" }] } =
      .error ⟨some "unit price", "field"⟩ := rfl

end BuilderStyle
end BeanBuilder
