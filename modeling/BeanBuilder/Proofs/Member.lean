import BeanBuilder.Member
import BeanBuilder.Proofs.AccessorName
import BeanBuilder.Proofs.OrderedMap

/-! # Where members come from

Every member of a builder is made from a candidate among the accessors of the bean
(`exists_candidate_of_mem_builderMembers`).  A builder keeps its members by their fields, so no
two of them share a field (`nodup_field_builderMembers`).
-/
namespace BeanBuilder

/-- A candidate has a `get` name, and its field is the suffix with the first letter in lower
case. -/
theorem Accessor.exists_letter_of_isCandidate {a : Accessor} (ha : a.isCandidate = true) :
    ∃ letter rest, a.name.toList = 'g' :: 'e' :: 't' :: letter :: rest ∧
      Text.isUpper letter = true ∧ (AccessorName.suffixOf a.name).toList = letter :: rest ∧
      (fieldName a.name).toList = Text.lower letter ++ rest := by
  simp only [Accessor.isCandidate, Bool.and_eq_true] at ha
  exact AccessorName.exists_letter_of_reads_get ha.1.1.1

theorem Classification.mem_select_add {k : Classification} {category other : Category}
    {name type : String} {e : String × String}
    (h : e ∈ ((k.add category name type).select other).toList) :
    (e = (name, type) ∧ other = category) ∨ e ∈ (k.select other).toList := by
  by_cases ho : other = category
  · subst ho
    cases other <;>
      exact (OrderedMap.mem_of_mem_insert h).imp_left (fun he => ⟨he, rfl⟩)
  · refine Or.inr ?_
    cases category <;> cases other <;> first | exact h | exact absurd rfl ho

namespace Containers

variable {c : Containers} {b : Bean} {m : Member} {category : Category} {e : String × String}

/-- An accessor is classified under its own name and type, or not at all. -/
theorem mem_select_classifyOne {k : Classification} {a : Accessor}
    (h : e ∈ ((c.classifyOne k a).select category).toList) :
    e ∈ (k.select category).toList ∨
      (a.isCandidate = true ∧ a.name = e.1 ∧ a.returnType = some e.2 ∧
        category = c.category e.2) := by
  unfold classifyOne at h
  split at h
  · rename_i type htype
    split at h
    · rename_i hcand
      rcases Classification.mem_select_add h with ⟨rfl, hcat⟩ | hold
      · exact Or.inr ⟨hcand, rfl, htype, hcat⟩
      · exact Or.inl hold
    · exact Or.inl h
  · exact Or.inl h

theorem mem_select_foldl_classifyOne {k : Classification} {accessors : List Accessor}
    (h : e ∈ ((accessors.foldl c.classifyOne k).select category).toList) :
    e ∈ (k.select category).toList ∨
      ∃ a ∈ accessors, a.isCandidate = true ∧ a.name = e.1 ∧ a.returnType = some e.2 ∧
        category = c.category e.2 := by
  induction accessors generalizing k with
  | nil => exact Or.inl h
  | cons a rest ih =>
    rcases ih h with hone | ⟨a', ha', hrest⟩
    · rcases mem_select_classifyOne hone with hold | hnew
      · exact Or.inl hold
      · exact Or.inr ⟨a, List.mem_cons_self, hnew⟩
    · exact Or.inr ⟨a', List.mem_cons_of_mem _ ha', hrest⟩

/-- What is classified is the name of a candidate with its type. -/
theorem exists_candidate_of_mem_classify {accessors : List Accessor}
    (h : e ∈ ((c.classify accessors).select category).toList) :
    ∃ a ∈ accessors, a.isCandidate = true ∧ a.name = e.1 ∧ a.returnType = some e.2 ∧
      category = c.category e.2 := by
  refine (mem_select_foldl_classifyOne h).resolve_left ?_
  cases category <;> exact List.not_mem_nil

theorem mem_members_iff {k : Classification} :
    m ∈ c.members k ↔
      ∃ category, ∃ e ∈ (k.select category).toList, c.member e.1 e.2 category = m := by
  simp only [members, List.mem_flatMap, List.mem_map]
  constructor
  · rintro ⟨category, -, e, he, rfl⟩
    exact ⟨category, e, he, rfl⟩
  · rintro ⟨category, e, he, rfl⟩
    exact ⟨category, by cases category <;> simp [Category.all], e, he, rfl⟩

/-- An entry of the fields of a bean is a member under the name of its field. -/
theorem of_mem_fields {entry : String × Member} (h : entry ∈ (c.fields b).toList) :
    entry.1 = entry.2.field ∧ entry.2 ∈ c.members (c.classify b.accessors) := by
  obtain ⟨m, hm, rfl⟩ := List.mem_map.mp (OrderedMap.mem_of_mem_ofList h)
  exact ⟨rfl, hm⟩

/-- **Every member is made from a candidate** among the accessors of the bean. -/
theorem exists_candidate_of_mem_builderMembers (hm : m ∈ c.builderMembers b) :
    ∃ a ∈ b.accessors, a.isCandidate = true ∧
      ∃ type, a.returnType = some type ∧ m = c.member a.name type (c.category type) := by
  obtain ⟨entry, hentry, rfl⟩ := List.mem_map.mp hm
  obtain ⟨category, e, he, hmember⟩ := mem_members_iff.mp (of_mem_fields hentry).2
  obtain ⟨a, ha, hcand, hname, htype, rfl⟩ := exists_candidate_of_mem_classify he
  exact ⟨a, ha, hcand, e.2, htype, by rw [hname, hmember]⟩

theorem map_field_builderMembers (c : Containers) (b : Bean) :
    (c.builderMembers b).map Member.field = (c.fields b).keys := by
  rw [builderMembers, OrderedMap.values, OrderedMap.keys, List.map_map]
  exact List.map_congr_left fun entry h => (of_mem_fields h).1.symm

/-- **No two members share a field.** -/
theorem nodup_field_builderMembers (c : Containers) (b : Bean) :
    ((c.builderMembers b).map Member.field).Nodup := by
  rw [map_field_builderMembers]
  exact OrderedMap.nodup_keys_ofList _

/-- The field of a member is named after its accessor. -/
theorem field_of_mem_builderMembers (hm : m ∈ c.builderMembers b) :
    m.field = fieldName m.accessor := by
  obtain ⟨a, -, -, type, -, rfl⟩ := exists_candidate_of_mem_builderMembers hm
  rfl

/-- Members with different fields have different setters, so no setter name occurs twice. -/
theorem nodup_setterName_builderMembers (c : Containers) (b : Bean) :
    ((c.builderMembers b).map fun m => setterName m.accessor).Nodup := by
  have hfields := nodup_field_builderMembers c b
  rw [List.nodup_iff_pairwise_ne, List.pairwise_map] at hfields ⊢
  -- a setter name tells the suffix, and the suffix tells the field
  refine hfields.imp_of_mem ?_
  intro m m' hm hm' hne heq
  apply hne
  rw [field_of_mem_builderMembers hm, field_of_mem_builderMembers hm', fieldName, fieldName]
  exact congrArg decapitalize ((String.append_right_inj "set").mp heq)

end Containers
end BeanBuilder
