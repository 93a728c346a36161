import Mathlib.Data.List.Nodup
import BeanBuilder.Proofs.AccessorName
import BeanBuilder.Proofs.Hierarchy
import BeanBuilder.Proofs.Member

/-! # How the accessors of a type are sorted

Accessors of one type differ in their signatures.  Candidates have no parameters, so they differ
in their names, and none of them ever takes the place of another: what is sorted into a category
is the list of the candidates of that category (`toList_select_classify`), and no name is in two
categories (`nodup_keys_merged`).

Which names are sorted at all is decided by the most derived declaration without parameters.  An
override that returns nothing or is marked as ignored takes an inherited member away, and an
overload with parameters does not (`classify_accessors`).
-/
namespace BeanBuilder

namespace Classification

variable {k : Classification} {category other : Category} {name type : String}

theorem toList_select_add (hnew : name ∉ (k.select category).keys) :
    ((k.add category name type).select other).toList =
      (k.select other).toList ++ if other = category then [(name, type)] else [] := by
  by_cases ho : other = category
  · subst ho
    rw [if_pos rfl]
    cases other <;> exact OrderedMap.toList_insert_of_new type hnew
  · rw [if_neg ho, List.append_nil]
    cases category <;> cases other <;> first | rfl | exact absurd rfl ho

end Classification

namespace Containers

variable {c : Containers} {accessors : List Accessor} {a : Accessor} {category : Category}
  {e e' : String × String}

/-- The name and the type of a candidate of a category. -/
def entry? (c : Containers) (category : Category) (a : Accessor) : Option (String × String) :=
  match a.returnType with
  | some type =>
    if a.isCandidate = true ∧ category = c.category type then some (a.name, type) else none
  | none => none

theorem entry?_eq_some_iff :
    c.entry? category a = some e ↔
      a.isCandidate = true ∧ a.name = e.1 ∧ a.returnType = some e.2 ∧
        category = c.category e.2 := by
  obtain ⟨name, type⟩ := e
  unfold entry?
  cases htype : a.returnType with
  | none => simp
  | some returned =>
    simp only [Option.ite_none_right_eq_some, Option.some.injEq, Prod.mk.injEq]
    constructor
    · rintro ⟨⟨hc, hcat⟩, hname, rfl⟩
      exact ⟨hc, hname, rfl, hcat⟩
    · rintro ⟨hc, hname, rfl, hcat⟩
      exact ⟨⟨hc, hcat⟩, hname, rfl⟩

/-- One accessor puts its entry behind those of its category. -/
theorem toList_select_classifyOne {k : Classification}
    (hnew : a.isCandidate = true → ∀ category, a.name ∉ (k.select category).keys) :
    ((c.classifyOne k a).select category).toList =
      (k.select category).toList ++ (c.entry? category a).toList := by
  unfold classifyOne entry?
  cases a.returnType with
  | none => simp
  | some type =>
    by_cases hc : a.isCandidate = true
    · simp only [if_pos, hc, true_and]
      rw [Classification.toList_select_add (hnew hc _)]
      split <;> rfl
    · simp [hc]

/-- The signature of a candidate is its name. -/
theorem signature_of_isCandidate (hc : a.isCandidate = true) : a.signature = (a.name, []) := by
  simp only [Accessor.isCandidate, Bool.and_eq_true, List.isEmpty_iff] at hc
  rw [Accessor.signature, hc.1.1.2]

/-- Accessors with different signatures, none of them sorted yet, are sorted one after another. -/
theorem toList_select_foldl_classifyOne {k : Classification}
    (hn : (accessors.map Accessor.signature).Nodup)
    (hnew : ∀ a ∈ accessors, a.isCandidate = true → ∀ category, a.name ∉ (k.select category).keys) :
    ((accessors.foldl c.classifyOne k).select category).toList =
      (k.select category).toList ++ accessors.filterMap (c.entry? category) := by
  induction accessors generalizing k with
  | nil => exact (List.append_nil _).symm
  | cons a rest ih =>
    rw [List.map_cons, List.nodup_cons] at hn
    have hone : ∀ category, ((c.classifyOne k a).select category).toList =
        (k.select category).toList ++ (c.entry? category a).toList :=
      fun _ => toList_select_classifyOne (hnew a List.mem_cons_self)
    rw [List.foldl_cons, ih hn.2, hone, List.append_assoc]
    · cases hentry : c.entry? category a <;> simp [hentry]
    -- a later candidate of that name would have the signature of this one
    · intro a' ha' hc' category' hmem
      rw [OrderedMap.keys, hone, List.map_append, List.mem_append] at hmem
      rcases hmem with hold | hthis
      · exact hnew a' (List.mem_cons_of_mem _ ha') hc' category' hold
      · obtain ⟨e, he, hname⟩ := List.mem_map.mp hthis
        obtain ⟨hc, hname', -, -⟩ := entry?_eq_some_iff.mp (Option.mem_toList.mp he)
        apply hn.1
        rw [signature_of_isCandidate hc, hname', hname, ← signature_of_isCandidate hc']
        exact List.mem_map_of_mem ha'

/-- **A category holds its candidates** in the order of the accessors, where these have different
signatures. -/
theorem toList_select_classify (hn : (accessors.map Accessor.signature).Nodup)
    (category : Category) :
    ((c.classify accessors).select category).toList =
      accessors.filterMap (c.entry? category) := by
  rw [classify, toList_select_foldl_classifyOne hn]
  · cases category <;> rfl
  · intro a _ _ category
    cases category <;> exact List.not_mem_nil

theorem mem_select_classify_iff (hn : (accessors.map Accessor.signature).Nodup) :
    e ∈ ((c.classify accessors).select category).toList ↔
      ∃ a ∈ accessors, a.isCandidate = true ∧ a.name = e.1 ∧ a.returnType = some e.2 ∧
        category = c.category e.2 := by
  rw [toList_select_classify hn, List.mem_filterMap]
  simp only [entry?_eq_some_iff]

/-- A name is in one category, with one type. -/
theorem eq_of_mem_select_classify {other : Category}
    (hn : (accessors.map Accessor.signature).Nodup)
    (he : e ∈ ((c.classify accessors).select category).toList)
    (he' : e' ∈ ((c.classify accessors).select other).toList) (hname : e.1 = e'.1) :
    category = other ∧ e = e' := by
  obtain ⟨a, ha, hc, han, hat, hcat⟩ := (mem_select_classify_iff hn).mp he
  obtain ⟨a', ha', hc', han', hat', hcat'⟩ := (mem_select_classify_iff hn).mp he'
  have hsig : a.signature = a'.signature := by
    rw [signature_of_isCandidate hc, signature_of_isCandidate hc', han, han', hname]
  obtain rfl : a = a' := List.inj_on_of_nodup_map hn ha ha' hsig
  have htype : e.2 = e'.2 := Option.some.inj (hat.symm.trans hat')
  exact ⟨by rw [hcat, hcat', htype], Prod.ext hname htype⟩

/-- The names in a category stand in the order of the accessors without parameters. -/
theorem keys_select_classify_sublist (hn : (accessors.map Accessor.signature).Nodup)
    (category : Category) :
    ((c.classify accessors).select category).keys.Sublist
      ((accessors.filter fun a => a.parameterTypes.isEmpty).map Accessor.name) := by
  rw [OrderedMap.keys, toList_select_classify hn]
  clear hn
  induction accessors with
  | nil => exact List.Sublist.refl []
  | cons a rest ih =>
    cases hentry : c.entry? category a with
    | none =>
      rw [List.filterMap_cons_none hentry]
      exact ih.trans (((List.sublist_cons_self a rest).filter _).map _)
    | some e =>
      obtain ⟨hc, hname, -, -⟩ := entry?_eq_some_iff.mp hentry
      have hnone : a.parameterTypes.isEmpty = true := by
        simp only [Accessor.isCandidate, Bool.and_eq_true] at hc
        exact hc.1.1.2
      rw [List.filterMap_cons_some hentry, List.filter_cons_of_pos (by exact hnone),
        List.map_cons, List.map_cons, hname]
      exact ih.cons_cons _

theorem nodup_keys_select_classify (hn : (accessors.map Accessor.signature).Nodup)
    (category : Category) : ((c.classify accessors).select category).keys.Nodup := by
  refine (keys_select_classify_sublist hn category).nodup ?_
  have hsub : (((accessors.filter fun a => a.parameterTypes.isEmpty)).map
      Accessor.signature).Nodup := (List.filter_sublist.map _).nodup hn
  -- without parameters a name is a signature
  refine List.Nodup.of_map (fun name => ((name, []) : String × List String)) ?_
  rw [List.map_map]
  convert hsub using 1
  refine List.map_congr_left fun a ha => ?_
  rw [Function.comp_apply, Accessor.signature,
    List.isEmpty_iff.mp (List.mem_filter.mp ha).2]

/-! ## All three categories -/

/-- Merging loses nothing: the entries of the three categories, one after another. -/
theorem toList_merged_classify (hn : (accessors.map Accessor.signature).Nodup) :
    (c.classify accessors).merged.toList =
      (c.classify accessors).collections.toList ++ (c.classify accessors).primitives.toList ++
        (c.classify accessors).references.toList := by
  have hnodup := nodup_keys_select_classify (c := c) hn
  have hapart : ∀ category other : Category, category ≠ other →
      ∀ e ∈ ((c.classify accessors).select category).toList,
        e.1 ∉ ((c.classify accessors).select other).keys := by
    intro category other hne e he hmem
    obtain ⟨e', he', hname⟩ := List.mem_map.mp hmem
    exact hne (eq_of_mem_select_classify hn he he' hname.symm).1
  have hfirst : ((c.classify accessors).collections.union
      (c.classify accessors).primitives).toList =
        (c.classify accessors).collections.toList ++ (c.classify accessors).primitives.toList :=
    OrderedMap.toList_union_of_new (hnodup .primitive)
      (hapart .primitive .collection (by decide))
  refine (OrderedMap.toList_union_of_new (hnodup .reference) ?_).trans (congrArg (· ++ _) hfirst)
  intro e he hmem
  rw [OrderedMap.keys, hfirst, List.map_append, List.mem_append] at hmem
  rcases hmem with hcollection | hprimitive
  · exact hapart .reference .collection (by decide) e he hcollection
  · exact hapart .reference .primitive (by decide) e he hprimitive

/-- No name is in two categories. -/
theorem nodup_keys_merged (hn : (accessors.map Accessor.signature).Nodup) :
    (c.classify accessors).merged.keys.Nodup :=
  OrderedMap.nodup_keys_union _ (OrderedMap.nodup_keys_union _
    (nodup_keys_select_classify hn .collection))

/-- **How the accessors of a type are sorted**, whatever its chain of superclasses and the
containers are.  A name is sorted exactly when it is a `get` name and its most derived declaration
without parameters returns something and is not ignored, and it is sorted with the type that this
declaration returns: a container into the collections, any other type by whether it is primitive.
Each category keeps the order of the accessors, and merging them loses and repeats nothing. -/
theorem classify_accessors (c : Containers) (h : Hierarchy) (id : TypeId) :
    (∀ name type category,
      (name, type) ∈ ((c.classify (h.accessors id)).select category).toList ↔
        ((∃ letter rest, name.toList = 'g' :: 'e' :: 't' :: letter :: rest ∧
            Text.isUpper letter = true) ∧
          ¬ "getClass".toList <+: name.toList) ∧
        (∃ a, h.FirstDeclared id a ∧ a.signature = (name, []) ∧ a.returnType = some type ∧
          a.ignored = false) ∧
        category =
          if TypeText.raw type ∈ c.sequences ∨ TypeText.raw type ∈ c.sets then .collection
          else if type ∈ Accessor.primitiveTypes then .primitive
          else .reference) ∧
    (∀ category, ((c.classify (h.accessors id)).select category).keys.Sublist
      (((h.accessors id).filter fun a => a.parameterTypes.isEmpty).map Accessor.name)) ∧
    (c.classify (h.accessors id)).merged.toList =
      (c.classify (h.accessors id)).collections.toList ++
        (c.classify (h.accessors id)).primitives.toList ++
        (c.classify (h.accessors id)).references.toList ∧
    (c.classify (h.accessors id)).merged.keys.Nodup ∧
    (c.classify (h.accessors id)).merged.size = (c.classify (h.accessors id)).size := by
  have hn : ((h.accessors id).map Accessor.signature).Nodup :=
    Accessor.nodup_signature_firsts _
  have hmerged := toList_merged_classify (c := c) hn
  refine ⟨?_, keys_select_classify_sublist hn, hmerged, nodup_keys_merged hn, ?_⟩
  · intro name type category
    have hcategory : c.category type =
        if TypeText.raw type ∈ c.sequences ∨ TypeText.raw type ∈ c.sets then .collection
        else if type ∈ Accessor.primitiveTypes then .primitive
        else .reference := by
      simp [Containers.category, isSequence, isSet, Accessor.isPrimitive]
    rw [mem_select_classify_iff hn, ← hcategory, ← AccessorName.reads_get_iff]
    constructor
    · rintro ⟨a, ha, hc, rfl, htype, hcat⟩
      have hsig := signature_of_isCandidate hc
      simp only [Accessor.isCandidate, Bool.and_eq_true, Bool.not_eq_true'] at hc
      exact ⟨hc.1.1.1, ⟨a, Hierarchy.mem_accessors_iff.mp ha, hsig, htype, hc.2⟩, hcat⟩
    · rintro ⟨hreads, ⟨a, ha, hsig, htype, hignored⟩, hcat⟩
      obtain ⟨rfl, hnone⟩ := Prod.mk.inj hsig
      refine ⟨a, Hierarchy.mem_accessors_iff.mpr ha, ?_, rfl, htype, hcat⟩
      simp [Accessor.isCandidate, hreads, hnone, htype, hignored]
  · rw [OrderedMap.size, hmerged, List.length_append, List.length_append]
    rfl

/-- Two types that extend each other.  The first overrides `getId` with a method that is left out,
and overloads `getTags`. -/
def loopedTypes : Hierarchy where
  declarations := [
    { simpleName := "Entry"
      declared := [{ name := "getId", returnType := some "long", ignored := true },
        { name := "getTags", returnType := some "String", parameterTypes := ["int"] }]
      superclass := some 1 },
    { simpleName := "Base"
      declared := [{ name := "getTags", returnType := some "List<String>" },
        { name := "getId", returnType := some "long" }]
      superclass := some 0 }]

example :
    (({} : Containers).classify (loopedTypes.accessors 0)).merged.toList =
      [("getTags", "List<String>")] := rfl

end Containers
end BeanBuilder
