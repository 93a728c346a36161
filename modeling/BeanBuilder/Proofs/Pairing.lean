import Mathlib.Data.List.Dedup
import BeanBuilder.Hierarchy
import BeanBuilder.Pairing
import BeanBuilder.Proofs.AccessorName
import BeanBuilder.Proofs.BuilderText
import BeanBuilder.Proofs.Member

/-! # What the strict check of the pairing tells

The strict check compares three numbers: the getters, the setters and the paired getters.  Where
it passes, every getter is paired, so every call that `build` makes on the bean finds its setter
(`exists_setter_of_mem_builderMembers`).

It does not tell as much about the setters.  Two getters with one suffix are paired with one
setter, which is then counted twice.  So the numbers can agree although another setter belongs
to no getter, and they can differ although nothing is left over
(`flagBean_passes_and_lampBean_fails`).  The check decides whether the accessors are paired both
ways exactly when some getter is not paired at all, or no two getters share a suffix, or the
setters are as many as neither the getters nor their suffixes
(`isPojoShaped_iff_pairedBothWays_iff`).
-/
namespace BeanBuilder
namespace Bean

open AccessorName

variable {b : Bean} {getter setter : Accessor} {suffix : String}

/-! ## Getters, setters and pairs -/

theorem mem_getters_iff :
    getter ∈ b.getters ↔ getter ∈ b.accessors ∧ reads readingKinds getter.name = true := by
  rw [getters, List.mem_filter]

theorem mem_settersFor_iff {setters : List Accessor} :
    setter ∈ settersFor setters suffix ↔
      setter ∈ setters ∧ suffixOf setter.name = suffix ∧ setter.parameterTypes.length = 1 := by
  simp [settersFor, List.mem_filter]

theorem isPaired_iff {setters : List Accessor} :
    isPaired setters getter = true ↔
      (settersFor setters (suffixOf getter.name)).length = 1 := by
  simp [isPaired]

/-- The strict check compares the three numbers. -/
theorem isPojoShaped_strict_iff :
    b.isPojoShaped true = true ↔
      (∀ getter ∈ b.getters, isPaired b.setters getter = true) ∧
        b.setters.length = b.getters.length := by
  have hshape : b.isPojoShaped true = true ↔
      b.pairedCount = b.getters.length ∧ b.pairedCount = b.setters.length := by
    simp [isPojoShaped]
  rw [hshape, pairedCount, ← List.countP_eq_length]
  constructor
  · rintro ⟨hg, hs⟩
    exact ⟨hg, hs ▸ hg⟩
  · rintro ⟨hg, hs⟩
    exact ⟨hg, hg.trans hs.symm⟩

/-- A bean without objections has the shape that was asked for. -/
theorem isPojoShaped_of_objections_eq_nil {strict requireConstructor : Bool}
    (h : b.objections strict requireConstructor = []) : b.isPojoShaped strict = true := by
  have hshape : b.shapeDiagnostics strict = [] := (List.append_eq_nil_iff.mp h).2
  by_contra hn
  simp [shapeDiagnostics, hn] at hshape

/-- The accessors with the name of the setter of a getter, and with one parameter, are the
setters of one parameter with its suffix. -/
theorem filter_setterName {n : AccessorName} (h : parse? getter.name = some n) :
    (b.accessors.filter fun a => a.name = setterName getter.name && a.parameterTypes.length = 1) =
      settersFor b.setters (suffixOf getter.name) := by
  rw [settersFor, setters, List.filter_filter]
  apply List.filter_congr
  intro a _
  have hname := @isSetter_and_suffixOf_eq_iff _ a.name _ h
  grind

/-! ## The calls of `build` -/

/-- Only getters become members. -/
theorem mem_getters_of_isCandidate (ha : getter ∈ b.accessors) (hc : getter.isCandidate = true) :
    getter ∈ b.getters := by
  simp only [Accessor.isCandidate, Bool.and_eq_true] at hc
  exact mem_getters_iff.mpr ⟨ha, reads_mono (by simp [readingKinds]) hc.1.1.1⟩

/-- The setter of a paired getter is the only accessor of its name with one parameter. -/
theorem exists_filter_setterName (hg : getter ∈ b.getters)
    (hp : isPaired b.setters getter = true) :
    ∃ setter, setter.name = setterName getter.name ∧
      (b.accessors.filter fun a =>
        a.name = setterName getter.name && a.parameterTypes.length = 1) = [setter] := by
  obtain ⟨-, n, hn, -⟩ := reads_iff.mp (mem_getters_iff.mp hg).2
  obtain ⟨setter, hs⟩ := List.length_eq_one_iff.mp (isPaired_iff.mp hp)
  rw [← filter_setterName hn] at hs
  have hmem := hs ▸ List.mem_singleton_self setter
  simp only [List.mem_filter, Bool.and_eq_true, decide_eq_true_eq] at hmem
  exact ⟨setter, hmem.2.1, hs⟩

/-- **Every call of `build` finds its setter.**  Where the strict check objects to nothing, `build`
hands over each member through a setter that exactly one accessor of the lineage has the name of,
among those with one parameter. -/
theorem exists_setter_of_mem_builderMembers {h : Hierarchy} {id : TypeId}
    (hb : h.bean? id = some b) {requireConstructor : Bool}
    (hs : b.objections true requireConstructor = []) (c : Containers) {m : Member}
    (hm : m ∈ c.builderMembers b) :
    ∃ draft setter,
      BuilderStyle.buildMethod? b.qualifiedName (c.builderMembers b) = .ok draft ∧
        (1, "obj." ++ setter.name ++ "(" ++ m.field ++ ");") ∈ draft.lines ∧
        ((h.accessors id).filter fun a =>
          a.name = setter.name && a.parameterTypes.length = 1) = [setter] := by
  have hpaired := (isPojoShaped_strict_iff.mp (isPojoShaped_of_objections_eq_nil hs)).1
  obtain ⟨getter, hget, hcand, type, -, hmember⟩ :=
    Containers.exists_candidate_of_mem_builderMembers hm
  have hg := mem_getters_of_isCandidate hget hcand
  obtain ⟨setter, hname, hfilter⟩ := exists_filter_setterName hg (hpaired getter hg)
  have hacc : b.accessors = h.accessors id := by
    obtain ⟨d, -, rfl⟩ := Option.map_eq_some_iff.mp hb
    rfl
  refine ⟨_, setter, BuilderStyle.buildMethod?_eq _ _, ?_, ?_⟩
  · refine List.mem_map.mpr ⟨_, ?_, rfl⟩
    have hcall := List.mem_map_of_mem (f := fun m =>
      "obj." ++ setterName m.accessor ++ "(" ++ m.field ++ ");") hm
    have haccessor : m.accessor = getter.name := by rw [hmember]; rfl
    rw [hname, ← haccessor]
    exact List.mem_append_left _ (List.mem_cons_of_mem _ hcall)
  · rw [hname, ← hacc]
    exact hfilter

/-- A type that inherits one of its two properties. -/
def namedTypes : Hierarchy where
  declarations := [
    { simpleName := "Keyed"
      declared := [{ name := "getId", returnType := some "long" },
        { name := "setId", parameterTypes := ["long"] }] },
    { simpleName := "Named"
      declared := [{ name := "hasName", returnType := some "boolean" },
        { name := "setName", parameterTypes := ["boolean"] }]
      constructors := [[]]
      superclass := some 0 }]

theorem exists_setter_of_mem_namedTypes :
    ∃ b, namedTypes.bean? 1 = some b ∧ b.objections true true = [] ∧
      ∃ m, ({} : Containers).builderMembers b = [m] ∧
        ∃ draft setter,
          BuilderStyle.buildMethod? b.qualifiedName [m] = .ok draft ∧
            (1, "obj." ++ setter.name ++ "(" ++ m.field ++ ");") ∈ draft.lines ∧
            ((namedTypes.accessors 1).filter fun a =>
              a.name = setter.name && a.parameterTypes.length = 1) = [setter] := by
  have hm : ({} : Containers).builderMembers ((namedTypes.bean? 1).get rfl) =
      [⟨"getId", "id", "long", .primitive, none, none⟩] := rfl
  have hs : ((namedTypes.bean? 1).get rfl).objections true true = [] := rfl
  refine ⟨(namedTypes.bean? 1).get rfl, rfl, hs, _, hm, ?_⟩
  exact hm ▸ exists_setter_of_mem_builderMembers rfl hs {} (hm ▸ List.mem_cons_self)

/-! ## Pairing on both sides -/

/-- Every getter has one setter, and every setter is that of a getter. -/
structure PairedBothWays (b : Bean) : Prop where
  /-- Exactly one setter of one parameter has the suffix of the getter. -/
  getter_paired : ∀ getter ∈ b.getters,
    ∃ setter, settersFor b.setters (suffixOf getter.name) = [setter]
  /-- The setter is the one of some getter. -/
  setter_paired : ∀ setter ∈ b.setters,
    ∃ getter ∈ b.getters, settersFor b.setters (suffixOf getter.name) = [setter]

/-- The suffixes of the getters, as often as they occur. -/
def getterSuffixes (b : Bean) : List String :=
  b.getters.map fun getter => suffixOf getter.name

/-- The setters of one parameter that share their suffix with a getter. -/
def matchedSetters (b : Bean) : List Accessor :=
  b.setters.filter fun setter =>
    setter.parameterTypes.length = 1 && suffixOf setter.name ∈ b.getterSuffixes

theorem mem_getterSuffixes_iff :
    suffix ∈ b.getterSuffixes ↔ ∃ getter ∈ b.getters, suffixOf getter.name = suffix := by
  rw [getterSuffixes, List.mem_map]

theorem filter_matchedSetters (hs : suffix ∈ b.getterSuffixes) :
    (b.matchedSetters.filter fun setter => suffixOf setter.name = suffix) =
      settersFor b.setters suffix := by
  rw [matchedSetters, settersFor, List.filter_filter]
  apply List.filter_congr
  intro setter _
  grind

/-- Where every getter is paired, the matched setters have each suffix of a getter once and no
other suffix. -/
theorem count_suffix_matchedSetters
    (hp : ∀ getter ∈ b.getters, isPaired b.setters getter = true) (suffix : String) :
    (b.matchedSetters.map fun setter => suffixOf setter.name).count suffix =
      if suffix ∈ b.getterSuffixes then 1 else 0 := by
  split
  -- the matched setters with the suffix of a getter are those that pair the getter
  · rename_i hs
    obtain ⟨getter, hg, rfl⟩ := mem_getterSuffixes_iff.mp hs
    rw [List.count_eq_countP, List.countP_map, List.countP_eq_length_filter,
      ← isPaired_iff.mp (hp getter hg), ← filter_matchedSetters hs]
    rfl
  · rename_i hs
    rw [List.count_eq_zero]
    intro hmem
    apply hs
    obtain ⟨setter, hset, rfl⟩ := List.mem_map.mp hmem
    simp only [matchedSetters, List.mem_filter, Bool.and_eq_true, decide_eq_true_eq] at hset
    exact hset.2.2

/-- So there are as many of them as there are different suffixes. -/
theorem length_matchedSetters
    (hp : ∀ getter ∈ b.getters, isPaired b.setters getter = true) :
    b.matchedSetters.length = b.getterSuffixes.dedup.length := by
  have hperm : (b.matchedSetters.map fun setter => suffixOf setter.name).Perm
      b.getterSuffixes.dedup := by
    rw [List.perm_iff_count]
    intro suffix
    rw [count_suffix_matchedSetters hp, List.count_dedup]
  rw [← hperm.length_eq, List.length_map]

/-- The pairing is complete on both sides when every getter is paired and the setters are as many
as the different suffixes of the getters. -/
theorem pairedBothWays_iff :
    b.PairedBothWays ↔
      (∀ getter ∈ b.getters, isPaired b.setters getter = true) ∧
        b.setters.length = b.getterSuffixes.dedup.length := by
  have hgetters : (∀ getter ∈ b.getters, isPaired b.setters getter = true) ↔
      ∀ getter ∈ b.getters, ∃ setter, settersFor b.setters (suffixOf getter.name) = [setter] := by
    simp only [isPaired_iff, List.length_eq_one_iff]
  -- selecting the matched setters drops none exactly when every setter is matched
  have hall : b.matchedSetters.length = b.setters.length ↔
      ∀ setter ∈ b.setters,
        setter.parameterTypes.length = 1 ∧ suffixOf setter.name ∈ b.getterSuffixes := by
    simp [matchedSetters, List.length_filter_eq_length_iff]
  constructor
  · rintro ⟨hg, hs⟩
    have hp := hgetters.mpr hg
    refine ⟨hp, ?_⟩
    rw [← length_matchedSetters hp, eq_comm, hall]
    intro setter hset
    obtain ⟨getter, hget, hone⟩ := hs setter hset
    obtain ⟨-, hsuffix, hlen⟩ := mem_settersFor_iff.mp (hone ▸ List.mem_singleton_self setter)
    exact ⟨hlen, mem_getterSuffixes_iff.mpr ⟨getter, hget, hsuffix.symm⟩⟩
  · rintro ⟨hp, hlen⟩
    refine ⟨hgetters.mp hp, ?_⟩
    rw [← length_matchedSetters hp, eq_comm, hall] at hlen
    intro setter hset
    obtain ⟨hone, hsuffix⟩ := hlen setter hset
    obtain ⟨getter, hget, hg⟩ := mem_getterSuffixes_iff.mp hsuffix
    obtain ⟨other, ho⟩ := hgetters.mp hp getter hget
    have hmem : setter ∈ settersFor b.setters (suffixOf getter.name) :=
      mem_settersFor_iff.mpr ⟨hset, hg.symm, hone⟩
    rw [ho, List.mem_singleton] at hmem
    exact ⟨getter, hget, hmem ▸ ho⟩

instance : Decidable b.PairedBothWays :=
  decidable_of_iff _ pairedBothWays_iff.symm

theorem dedup_length_eq_iff :
    b.getterSuffixes.dedup.length = b.getters.length ↔ b.getterSuffixes.Nodup := by
  have hlen : b.getterSuffixes.length = b.getters.length := List.length_map _
  rw [← List.dedup_eq_self, ← hlen]
  constructor
  · exact (List.dedup_sublist _).eq_of_length
  · exact congrArg List.length

/-- **What the strict check tells.**  It decides whether the pairing is complete on both sides
exactly when some getter is not paired, or no two getters share a suffix, or the setters are as
many as neither the getters nor the different suffixes of the getters. -/
theorem isPojoShaped_iff_pairedBothWays_iff (b : Bean) :
    (b.isPojoShaped true = true ↔ b.PairedBothWays) ↔
      (∃ getter ∈ b.getters, isPaired b.setters getter = false) ∨
        b.getterSuffixes.Nodup ∨
        (b.setters.length ≠ b.getters.length ∧
          b.setters.length ≠ b.getterSuffixes.dedup.length) := by
  rw [isPojoShaped_strict_iff, pairedBothWays_iff, ← dedup_length_eq_iff]
  by_cases hp : ∀ getter ∈ b.getters, isPaired b.setters getter = true
  · have hnone : ¬ ∃ getter ∈ b.getters, isPaired b.setters getter = false := by
      rintro ⟨getter, hg, hn⟩
      simp [hp getter hg] at hn
    -- what is left compares three lengths
    simp only [eq_true hp, hnone, true_and, false_or]
    omega
  · have hsome : ∃ getter ∈ b.getters, isPaired b.setters getter = false := by
      simpa using hp
    simp [hp, hsome]

/-- Two getters share their setter, and another setter has no getter. -/
def flagBean : Bean where
  simpleName := "Flag"
  package := some "p"
  accessors := [{ name := "getActive", returnType := some "boolean" },
    { name := "isActive", returnType := some "boolean" },
    { name := "setActive", parameterTypes := ["boolean"] },
    { name := "setLabel", parameterTypes := ["String"] }]
  constructors := [[]]

/-- Two getters share their setter, and nothing is left over. -/
def lampBean : Bean where
  simpleName := "Lamp"
  package := some "p"
  accessors := [{ name := "getActive", returnType := some "boolean" },
    { name := "isActive", returnType := some "boolean" },
    { name := "setActive", parameterTypes := ["boolean"] }]
  constructors := [[]]

theorem flagBean_passes_and_lampBean_fails :
    (flagBean.isPojoShaped true = true ∧ ¬ flagBean.PairedBothWays) ∧
      (lampBean.isPojoShaped true = false ∧ lampBean.PairedBothWays) := by
  decide +kernel

end Bean
end BeanBuilder
