import Mathlib.Data.List.Nodup
import Mathlib.Data.List.Pairwise
import BeanBuilder.Proofs.AccessorName
import BeanBuilder.Proofs.BuilderText

/-! # Methods of a builder that have one name

A class may not declare two methods that have the same name and take the same types
(`Draft.MethodDraft.overload`).  The methods of a builder are named in four ways: `add`, `set`,
`build` and the name of the factory.  Setters are told apart by their suffixes, but an adder is
named after its suffix without a final `s`, and this may be the suffix of another collection.

For every generated builder, the only methods that cannot stand side by side are the adders of two
such collections whose elements have one type (`BuilderStyle.nodup_overload_iff`).
-/
namespace BeanBuilder

open AccessorName

/-- What tells a method apart from the others of its class: its name and the types it takes. -/
def Draft.MethodDraft.overload (m : MethodDraft) : String × List String :=
  (m.name, m.parameters.map Prod.fst)

/-! ## Suffixes without their final letter -/

section Singular

variable {suffix other : String}

theorem singular_eq_self_or (suffix : String) :
    singular suffix = suffix ∨ (suffix = singular suffix ++ "s" ∧ singular suffix ≠ "") := by
  rw [singular]
  split
  · rename_i c rest h
    refine Or.inr ⟨?_, ?_⟩
    · have hlist : suffix.toList = (c :: rest).reverse ++ ['s'] := by
        rw [← List.reverse_cons, ← h, List.reverse_reverse]
      rw [← String.toList_inj, hlist, String.toList_append, String.toList_ofList]
      rfl
    · rw [ne_eq, ← String.toList_inj, String.toList_ofList]
      simp
  · exact Or.inl rfl

theorem ne_append_s (suffix : String) : suffix ≠ suffix ++ "s" := by
  intro h
  have hlength := congrArg String.length h
  rw [String.length_append] at hlength
  exact absurd hlength (Nat.ne_of_lt (Nat.lt_add_one _))

theorem singular_append_s (h : suffix ≠ "") : singular (suffix ++ "s") = suffix := by
  have hne : suffix.toList.reverse ≠ [] := by
    rw [ne_eq, List.reverse_eq_nil_iff, String.toList_eq_nil_iff]
    exact h
  obtain ⟨c, rest, hrest⟩ := List.exists_cons_of_ne_nil hne
  have hreverse : (suffix ++ "s").toList.reverse = 's' :: c :: rest := by
    rw [String.toList_append, List.reverse_append, hrest]
    rfl
  rw [singular, hreverse]
  simp only
  rw [← hrest, List.reverse_reverse, String.ofList_toList]

/-- Two suffixes lose their difference exactly when it is one final `s`. -/
theorem singular_eq_singular_iff (hs : suffix ≠ "") (ho : other ≠ "") :
    singular suffix = singular other ↔ suffix = other ∨
      (other = suffix ++ "s" ∧ singular suffix = suffix) ∨
      (suffix = other ++ "s" ∧ singular other = other) := by
  constructor
  · intro heq
    rcases singular_eq_self_or suffix with h | ⟨h, -⟩ <;>
      rcases singular_eq_self_or other with h' | ⟨h', -⟩
    · exact Or.inl (h ▸ h' ▸ heq)
    · exact Or.inr (Or.inl ⟨by rw [← h, heq]; exact h', h⟩)
    · exact Or.inr (Or.inr ⟨by rw [← h', ← heq]; exact h, h'⟩)
    · exact Or.inl (by rw [h, h', heq])
  · rintro (rfl | ⟨rfl, h⟩ | ⟨rfl, h⟩)
    · rfl
    · rw [singular_append_s hs, h]
    · rw [singular_append_s ho, h]

end Singular

/-! ## Adders that cannot stand side by side -/

namespace Member

/-- Two collections whose elements have one type, and whose suffixes differ in a final `s` that
the names of their adders leave out. -/
def AddsAlike (m m' : Member) : Prop :=
  suffixOf m'.accessor = suffixOf m.accessor ++ "s" ∧
    singular (suffixOf m.accessor) = suffixOf m.accessor ∧
    m.addable?.isSome = true ∧ m'.addable? = m.addable?

instance (m m' : Member) : Decidable (m.AddsAlike m') :=
  inferInstanceAs (Decidable (_ ∧ _ ∧ _ ∧ _))

/-- The adder of a member by its name and the type it takes. -/
def adderOverload? (m : Member) : Option (String × List String) :=
  m.addable?.map fun element => (adderName m.accessor, [element])

/-- The setter of a member by its name and the type it takes. -/
def setterOverload (m : Member) : String × List String :=
  (setterName m.accessor, [m.type])

/-- Two members with different suffixes have one adder exactly when one of them adds like the
other. -/
theorem exists_adderOverload?_iff {m m' : Member} (hs : suffixOf m.accessor ≠ "")
    (hs' : suffixOf m'.accessor ≠ "") (hne : suffixOf m.accessor ≠ suffixOf m'.accessor) :
    (∃ overload, m.adderOverload? = some overload ∧ m'.adderOverload? = some overload) ↔
      m.AddsAlike m' ∨ m'.AddsAlike m := by
  have hnames : adderName m.accessor = adderName m'.accessor ↔
      (suffixOf m'.accessor = suffixOf m.accessor ++ "s" ∧
        singular (suffixOf m.accessor) = suffixOf m.accessor) ∨
      (suffixOf m.accessor = suffixOf m'.accessor ++ "s" ∧
        singular (suffixOf m'.accessor) = suffixOf m'.accessor) := by
    rw [adderName, adderName, String.append_right_inj, singular_eq_singular_iff hs hs',
      or_iff_right hne]
  have helements : (∃ overload, m.adderOverload? = some overload ∧
      m'.adderOverload? = some overload) ↔
      adderName m.accessor = adderName m'.accessor ∧ m.addable?.isSome = true ∧
        m'.addable? = m.addable? := by
    cases h : m.addable? <;> cases h' : m'.addable? <;>
      simp [adderOverload?, h, h', eq_comm]
  rw [helements, hnames, or_and_right, AddsAlike, AddsAlike, and_assoc, and_assoc]
  refine or_congr_right (and_congr_right fun _ => and_congr_right fun _ => ?_)
  constructor
  · rintro ⟨h, h'⟩
    exact ⟨h' ▸ h, h'.symm⟩
  · rintro ⟨h, h'⟩
    exact ⟨h' ▸ h, h'.symm⟩

end Member

namespace Containers

variable {c : Containers} {b : Bean} {m : Member}

/-- Members come from `get` accessors, so they have a suffix. -/
theorem suffixOf_ne_empty_of_mem_builderMembers (hm : m ∈ c.builderMembers b) :
    suffixOf m.accessor ≠ "" := by
  obtain ⟨a, -, hcand, type, -, rfl⟩ := exists_candidate_of_mem_builderMembers hm
  simp only [Accessor.isCandidate, Bool.and_eq_true] at hcand
  obtain ⟨-, n, hn, -⟩ := reads_iff.mp hcand.1.1.1
  have hupper := (parse?_eq_some_iff.mp hn).2
  change suffixOf a.name ≠ ""
  rw [suffixOf_of_parse? hn]
  intro hempty
  rw [hempty] at hupper
  exact absurd hupper (by decide)

theorem suffixOf_ne_of_field_ne {m' : Member} (hm : m ∈ c.builderMembers b)
    (hm' : m' ∈ c.builderMembers b) (hne : m.field ≠ m'.field) :
    suffixOf m.accessor ≠ suffixOf m'.accessor := by
  intro heq
  apply hne
  rw [field_of_mem_builderMembers hm, field_of_mem_builderMembers hm', fieldName, fieldName, heq]

/-- The adders of a bean are told apart unless two of its members add alike. -/
theorem nodup_adderOverload?_iff (c : Containers) (b : Bean) :
    ((c.builderMembers b).filterMap Member.adderOverload?).Nodup ↔
      ∀ m ∈ c.builderMembers b, ∀ m' ∈ c.builderMembers b, ¬ m.AddsAlike m' := by
  have hfields := c.nodup_field_builderMembers b
  have hsuffix : ∀ m ∈ c.builderMembers b, suffixOf m.accessor ≠ "" := fun m hm =>
    suffixOf_ne_empty_of_mem_builderMembers hm
  rw [List.nodup_iff_pairwise_ne, List.pairwise_filterMap]
  constructor
  · intro hpairs m hm m' hm' halike
    have hne : m ≠ m' := by
      rintro rfl
      exact ne_append_s _ halike.1
    have hsymm : Std.Symm fun m m' : Member => ∀ overload, m.adderOverload? = some overload →
        ∀ overload', m'.adderOverload? = some overload' → overload ≠ overload' :=
      ⟨fun _ _ h _ ho _ ho' => (h _ ho' _ ho).symm⟩
    have hsuffixes : suffixOf m.accessor ≠ suffixOf m'.accessor := by
      rw [halike.1]
      exact ne_append_s _
    obtain ⟨overload, h, h'⟩ := (Member.exists_adderOverload?_iff (hsuffix m hm) (hsuffix m' hm')
      hsuffixes).mpr (Or.inl halike)
    exact hpairs.forall hm hm' hne overload h overload h' rfl
  · intro hnone
    rw [List.nodup_iff_pairwise_ne, List.pairwise_map] at hfields
    refine hfields.imp_of_mem ?_
    rintro m m' hm hm' hne overload h _ h' rfl
    rcases (Member.exists_adderOverload?_iff (hsuffix m hm) (hsuffix m' hm')
      (suffixOf_ne_of_field_ne hm hm' hne)).mp ⟨_, h, h'⟩ with halike | halike
    · exact hnone m hm m' hm' halike
    · exact hnone m' hm' m hm halike

end Containers

namespace BuilderStyle
open Draft

variable {s : BuilderStyle} {c : Containers} {b : Bean} {members : List Member}

theorem overload_fluentMethod? {name builderType type parameter statement : String}
    {draft : MethodDraft}
    (h : fluentMethod? name builderType type parameter statement = .ok draft) :
    draft.overload = (name, [type]) := by
  obtain ⟨-, rfl⟩ := fluentMethod?_eq_ok_iff.mp h
  rfl

theorem overload_buildMethod? {type : String} {draft : MethodDraft}
    (h : buildMethod? type members = .ok draft) : draft.overload = ("build", []) := by
  rw [buildMethod?_eq, except_ok_eq_ok_iff] at h
  subst h
  rfl

theorem overload_factoryMethod? {name builderType : String} {draft : MethodDraft}
    (h : factoryMethod? name builderType = .ok draft) : draft.overload = (name, []) := by
  obtain ⟨-, rfl⟩ := factoryMethod?_eq_ok_iff.mp h
  rfl

/-- The methods of a builder by their names and the types they take. -/
theorem map_overload_methods? {drafts : List MethodDraft}
    (h : s.methods? b members = .ok drafts) :
    drafts.map MethodDraft.overload = members.filterMap Member.adderOverload? ++
      members.map Member.setterOverload ++ [("build", []), (s.factoryName, [])] := by
  obtain ⟨build, factory, hbuild, hfactory, hdrafts⟩ := map_methods?
    (fun m element draft hd => overload_fluentMethod? hd)
    (fun m draft hd => overload_fluentMethod? hd) h
  rw [hdrafts, overload_buildMethod? hbuild, overload_factoryMethod? hfactory]
  rfl

/-- The names of adders, of setters, `build` and `create` begin with four different letters, so only
adders can be confused. -/
theorem nodup_overloads_iff (c : Containers) (b : Bean) :
    ((c.builderMembers b).filterMap Member.adderOverload? ++
      (c.builderMembers b).map Member.setterOverload ++ [("build", []), ("create", [])]).Nodup ↔
      ((c.builderMembers b).filterMap Member.adderOverload?).Nodup := by
  have hsetters : ((c.builderMembers b).map Member.setterOverload).Nodup := by
    refine List.Nodup.of_map Prod.fst ?_
    rw [List.map_map]
    exact c.nodup_setterName_builderMembers b
  have hadd : ∀ overload ∈ (c.builderMembers b).filterMap Member.adderOverload?,
      overload.1.toList.head? = some 'a' := by
    intro overload ho
    obtain ⟨m, -, hm⟩ := List.mem_filterMap.mp ho
    obtain ⟨element, -, rfl⟩ := Option.map_eq_some_iff.mp hm
    simp [adderName]
  have hset : ∀ overload ∈ (c.builderMembers b).map Member.setterOverload,
      overload.1.toList.head? = some 's' := by
    intro overload ho
    obtain ⟨m, -, rfl⟩ := List.mem_map.mp ho
    simp [Member.setterOverload, setterName]
  constructor
  · intro hall
    exact hall.of_append_left.of_append_left
  · intro hadders
    refine List.nodup_append.mpr ⟨List.nodup_append.mpr ⟨hadders, hsetters, ?_⟩, by decide, ?_⟩
    · rintro overload h _ h' rfl
      exact absurd ((hadd _ h).symm.trans (hset _ h')) (by decide)
    · rintro overload h _ h' rfl
      have hfixed : overload.1.toList.head? = some 'b' ∨ overload.1.toList.head? = some 'c' := by
        rcases List.mem_cons.mp h' with rfl | hlast
        · exact Or.inl rfl
        · obtain rfl := List.mem_singleton.mp hlast
          exact Or.inr rfl
      rcases List.mem_append.mp h with h | h
      · rw [hadd _ h] at hfixed
        exact absurd hfixed (by decide)
      · rw [hset _ h] at hfixed
        exact absurd hfixed (by decide)

/-- **Which methods of a builder cannot stand side by side.**  The text of a builder is its head and
its fields, its methods and a closing brace; and no two of the methods have the same name and take
the same types, unless two collections add alike. -/
theorem nodup_overload_iff {source : BuilderSource}
    (h : ({} : BuilderStyle).generate? c b = .ok source) :
    ∃ opened drafts, ({} : BuilderStyle).opening? b (c.builderMembers b) = .ok opened ∧
      ({} : BuilderStyle).methods? b (c.builderMembers b) = .ok drafts ∧
      source.text = opened.text ++ String.join (drafts.map fun d => (d.render {} 1).1) ++ r"}" ∧
      ((drafts.map MethodDraft.overload).Nodup ↔
        ∀ m ∈ c.builderMembers b, ∀ m' ∈ c.builderMembers b, ¬ m.AddsAlike m') := by
  obtain ⟨opened, hopened, h⟩ := except_bind_eq_ok_iff.mp h
  obtain ⟨drafts, hdrafts, h⟩ := except_bind_eq_ok_iff.mp h
  rw [except_pure_eq_ok_iff] at h
  refine ⟨opened, drafts, hopened, hdrafts, ?_, ?_⟩
  · obtain ⟨-, block, hblock⟩ := opening?_eq hopened
    rw [h, foldl_addMethod]
    simp only
    rw [render_of_one_open ⟨block, by rw [hblock]; rfl⟩, SourceDraft.text_append, hblock]
    rfl
  · rw [map_overload_methods? hdrafts]
    exact (nodup_overloads_iff c b).trans (c.nodup_adderOverload?_iff b)

/-- A bean with two lists of one element type whose names differ in a final `s`. -/
def tagBean : Bean where
  simpleName := "Note"
  package := some "p"
  accessors := [{ name := "getTag", returnType := some "List<String>" },
    { name := "getTags", returnType := some "List<String>" }]

theorem nodup_overload_iff_orderBean :
    ∃ source, ({} : BuilderStyle).generate? {} orderBean = .ok source ∧
      ∃ opened drafts, ({} : BuilderStyle).opening? orderBean
          (({} : Containers).builderMembers orderBean) = .ok opened ∧
        ({} : BuilderStyle).methods? orderBean
          (({} : Containers).builderMembers orderBean) = .ok drafts ∧
        source.text = opened.text ++ String.join (drafts.map fun d => (d.render {} 1).1) ++ r"}" ∧
        (drafts.map MethodDraft.overload).Nodup := by
  obtain ⟨source, hsource⟩ : ∃ source, ({} : BuilderStyle).generate? {} orderBean = .ok source :=
    ⟨_, rfl⟩
  obtain ⟨opened, drafts, hopened, hdrafts, htext, hnodup⟩ := nodup_overload_iff hsource
  refine ⟨source, hsource, opened, drafts, hopened, hdrafts, htext, hnodup.mpr ?_⟩
  decide +kernel

/-- **A builder can declare one method twice.** -/
theorem tagBean_addTag_twice :
    ∃ source drafts, ({} : BuilderStyle).generate? {} tagBean = .ok source ∧
      ({} : BuilderStyle).methods? tagBean (({} : Containers).builderMembers tagBean) = .ok drafts ∧
      drafts.map MethodDraft.overload = [("addTag", ["String"]), ("addTag", ["String"]),
        ("setTag", ["List<String>"]), ("setTags", ["List<String>"]), ("build", []),
        ("create", [])] ∧
      ¬ (drafts.map MethodDraft.overload).Nodup := by
  refine ⟨_, _, rfl, rfl, rfl, ?_⟩
  decide +kernel

end BuilderStyle
end BeanBuilder
