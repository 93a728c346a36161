import BeanBuilder.Proofs.Pairing

/-! # What the lenient check of the pairing tells

The lenient check passes where the paired getters are as many as the getters, or as many as the
setters.  The first number tells that every getter is paired.  The second compares getters with
setters, and by itself it tells nothing: two getters that share a suffix count a setter twice.

Where no two getters share a suffix, each paired getter has a setter of its own.  These setters are
the ones that alone have their suffix, take one parameter and belong to a getter (`pairingSetters`),
and there are as many of them as there are paired getters
(`pairedCount_eq_length_pairingSetters`).  So the second number tells that all setters are among
them (`isPojoShaped_lenient_iff`).
-/
namespace BeanBuilder
namespace Bean

open AccessorName

variable {b : Bean} {setter : Accessor} {suffix : String}

/-- The setters of one parameter that share their suffix with a getter and with no other such
setter. -/
def pairingSetters (b : Bean) : List Accessor :=
  b.matchedSetters.filter fun setter => (settersFor b.setters (suffixOf setter.name)).length = 1

/-- The suffixes of the paired getters. -/
def pairedSuffixes (b : Bean) : List String :=
  (b.getters.filter (isPaired b.setters)).map fun getter => suffixOf getter.name

theorem mem_pairedSuffixes_iff :
    suffix ∈ b.pairedSuffixes ↔
      suffix ∈ b.getterSuffixes ∧ (settersFor b.setters suffix).length = 1 := by
  simp only [pairedSuffixes, mem_getterSuffixes_iff, List.mem_map, List.mem_filter, isPaired_iff]
  constructor
  · rintro ⟨getter, ⟨hg, hone⟩, rfl⟩
    exact ⟨⟨getter, hg, rfl⟩, hone⟩
  · rintro ⟨⟨getter, hg, rfl⟩, hone⟩
    exact ⟨getter, ⟨hg, hone⟩, rfl⟩

/-- The suffix of a matched setter is that of a getter. -/
theorem suffixOf_mem_getterSuffixes (h : setter ∈ b.matchedSetters) :
    suffixOf setter.name ∈ b.getterSuffixes := by
  simp only [matchedSetters, List.mem_filter, Bool.and_eq_true, decide_eq_true_eq] at h
  exact h.2.2

/-- The setters that pair a getter have each suffix of a paired getter once and no other suffix. -/
theorem count_suffix_pairingSetters (suffix : String) :
    (b.pairingSetters.map fun setter => suffixOf setter.name).count suffix =
      if suffix ∈ b.pairedSuffixes then 1 else 0 := by
  -- the condition on a setter is the same for all setters with one suffix
  have hfilter : (b.pairingSetters.filter fun setter => suffixOf setter.name = suffix) =
      (b.matchedSetters.filter fun setter => suffixOf setter.name = suffix).filter fun _ =>
        (settersFor b.setters suffix).length = 1 := by
    rw [pairingSetters, List.filter_filter, List.filter_filter]
    refine List.filter_congr fun setter _ => ?_
    by_cases hs : suffixOf setter.name = suffix <;> simp [hs]
  have hcount : (b.pairingSetters.map fun setter => suffixOf setter.name).count suffix =
      (b.pairingSetters.filter fun setter => suffixOf setter.name = suffix).length := by
    rw [List.count_eq_countP, List.countP_map, List.countP_eq_length_filter]
    rfl
  rw [hcount, hfilter]
  by_cases hs : suffix ∈ b.getterSuffixes
  · rw [filter_matchedSetters hs]
    by_cases hone : (settersFor b.setters suffix).length = 1 <;>
      simp [mem_pairedSuffixes_iff, hs, hone]
  · have hnone : (b.matchedSetters.filter fun setter => suffixOf setter.name = suffix) = [] := by
      refine List.filter_eq_nil_iff.mpr fun setter hset hsuffix => hs ?_
      exact of_decide_eq_true hsuffix ▸ suffixOf_mem_getterSuffixes hset
    simp [mem_pairedSuffixes_iff, hs, hnone]

/-- **Each paired getter has a setter of its own**, where no two getters share a suffix. -/
theorem pairedCount_eq_length_pairingSetters (hn : b.getterSuffixes.Nodup) :
    b.pairedCount = b.pairingSetters.length := by
  have hnodup : b.pairedSuffixes.Nodup := (List.filter_sublist.map _).nodup hn
  have hperm : b.pairedSuffixes.Perm (b.pairingSetters.map fun setter => suffixOf setter.name) := by
    rw [List.perm_iff_count]
    intro suffix
    rw [count_suffix_pairingSetters, hnodup.count]
  have hlen := hperm.length_eq
  rwa [List.length_map, pairedSuffixes, List.length_map, ← List.countP_eq_length_filter] at hlen

/-- All setters pair a getter exactly when each takes one parameter, is the only such setter with
its suffix, and has a getter. -/
theorem length_pairingSetters_eq_iff :
    b.pairingSetters.length = b.setters.length ↔
      ∀ setter ∈ b.setters, setter.parameterTypes.length = 1 ∧
        settersFor b.setters (suffixOf setter.name) = [setter] ∧
        ∃ getter ∈ b.getters, suffixOf getter.name = suffixOf setter.name := by
  rw [pairingSetters, matchedSetters, List.filter_filter, List.length_filter_eq_length_iff]
  refine forall₂_congr fun setter hset => ?_
  simp only [Bool.and_eq_true, decide_eq_true_eq, mem_getterSuffixes_iff]
  constructor
  · rintro ⟨hone, hparameters, hgetter⟩
    obtain ⟨sole, hsole⟩ := List.length_eq_one_iff.mp hone
    have hmem : setter ∈ settersFor b.setters (suffixOf setter.name) :=
      mem_settersFor_iff.mpr ⟨hset, rfl, hparameters⟩
    rw [hsole, List.mem_singleton] at hmem
    exact ⟨hparameters, hmem ▸ hsole, hgetter⟩
  · rintro ⟨hparameters, hsole, hgetter⟩
    exact ⟨by rw [hsole]; rfl, hparameters, hgetter⟩

/-- The lenient check compares the paired getters with the getters and with the setters. -/
theorem isPojoShaped_lenient_iff_count :
    b.isPojoShaped false = true ↔
      b.pairedCount = b.getters.length ∨ b.pairedCount = b.setters.length := by
  simp [isPojoShaped]

/-- **What the lenient check tells**, where no two getters share a suffix: every getter has exactly
one setter of one parameter with its suffix, or every setter takes exactly one parameter, is the
only setter of one parameter with its suffix, and has a getter with that suffix. -/
theorem isPojoShaped_lenient_iff (hn : b.getterSuffixes.Nodup) :
    b.isPojoShaped false = true ↔
      (∀ getter ∈ b.getters,
        ∃ setter, settersFor b.setters (suffixOf getter.name) = [setter]) ∨
      ∀ setter ∈ b.setters, setter.parameterTypes.length = 1 ∧
        settersFor b.setters (suffixOf setter.name) = [setter] ∧
        ∃ getter ∈ b.getters, suffixOf getter.name = suffixOf setter.name := by
  have hgetters : b.pairedCount = b.getters.length ↔ ∀ getter ∈ b.getters,
      ∃ setter, settersFor b.setters (suffixOf getter.name) = [setter] := by
    simp only [pairedCount, List.countP_eq_length, isPaired_iff, List.length_eq_one_iff]
  rw [isPojoShaped_lenient_iff_count, hgetters, pairedCount_eq_length_pairingSetters hn,
    length_pairingSetters_eq_iff]

/-- One getter has no setter, and both setters have their getters. -/
def doorBean : Bean where
  simpleName := "Door"
  accessors := [{ name := "getWidth", returnType := some "int" },
    { name := "setWidth", parameterTypes := ["int"] },
    { name := "isOpen", returnType := some "boolean" },
    { name := "hasLock", returnType := some "boolean" },
    { name := "setLock", parameterTypes := ["boolean"] }]

theorem isPojoShaped_lenient_iff_doorBean :
    doorBean.getterSuffixes.Nodup ∧ doorBean.isPojoShaped false = true ∧
      (¬∀ getter ∈ doorBean.getters,
        ∃ setter, settersFor doorBean.setters (suffixOf getter.name) = [setter]) ∧
      ∀ setter ∈ doorBean.setters, setter.parameterTypes.length = 1 ∧
        settersFor doorBean.setters (suffixOf setter.name) = [setter] ∧
        ∃ getter ∈ doorBean.getters, suffixOf getter.name = suffixOf setter.name := by
  have hn : doorBean.getterSuffixes.Nodup := by decide
  have hshaped : doorBean.isPojoShaped false = true := rfl
  have hopen : ¬∀ getter ∈ doorBean.getters,
      ∃ setter, settersFor doorBean.setters (suffixOf getter.name) = [setter] := by
    intro h
    have hmem : { name := "isOpen", returnType := some "boolean" } ∈ doorBean.getters := by decide
    obtain ⟨setter, hsetter⟩ := h _ hmem
    exact nomatch (show [] = [setter] from hsetter)
  exact ⟨hn, hshaped, hopen, ((isPojoShaped_lenient_iff hn).mp hshaped).resolve_left hopen⟩

end Bean
end BeanBuilder
