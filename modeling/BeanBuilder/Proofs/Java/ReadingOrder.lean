import BeanBuilder.Builder
import BeanBuilder.Pairing
import BeanBuilder.Proofs.OrderedMap
import BeanBuilder.Proofs.Java.Catalogs

/-! # The order in which sources are read

If no class is declared twice, the classes of a catalog are those of its sources one by one, and
what a name means is found among the classes themselves (`bind_lookup?`).  Of the three ways to find
a class, only the last one, by its simple name alone, asks for the order of the classes, and only if
several of them have that name.

So the name of a superclass that is found by another way, or is no one else's simple name, means the
same class in every order (`superclassAmong_eq_of_perm`).  Along a lineage of such classes two
orders of reading have parallel hierarchies, and the generator sees the same bean
(`readAll_of_perm`).
-/
namespace BeanBuilder
namespace Java

variable {ks ks' : List ReadClass} {k : ReadClass} {name q : String} {i j : Nat}

/-! ## What a name means among classes -/

namespace ReadClass

/-- The name of the class without its package. -/
def simpleName (k : ReadClass) : String :=
  k.declaration.simpleName

/-- The package of the class. -/
def package (k : ReadClass) : Option String :=
  k.declaration.package

end ReadClass

/-- No qualified name is that of two classes. -/
def DeclaredOnce (ks : List ReadClass) : Prop :=
  (ks.map ReadClass.qualifiedName).Nodup

instance (ks : List ReadClass) : Decidable (DeclaredOnce ks) :=
  inferInstanceAs (Decidable (ks.map ReadClass.qualifiedName).Nodup)

/-- The class with a qualified name. -/
def withName? (ks : List ReadClass) (q : String) : Option ReadClass :=
  ks.find? (·.qualifiedName = q)

/-- The class that a name means in a package. -/
def meant? (ks : List ReadClass) (name : String) (package : Option String) : Option ReadClass :=
  let inPackage := (package.filter (· ≠ "")).bind fun p => withName? ks (p ++ "." ++ name)
  (withName? ks name).or (inPackage.or (ks.find? (·.simpleName = name)))

/-- The superclass of a class; no class is its own superclass. -/
def superclassAmong (ks : List ReadClass) (k : ReadClass) : Option ReadClass :=
  k.superclass.bind fun name =>
    (meant? ks name k.package).filter (·.qualifiedName ≠ k.qualifiedName)

/-- A class names no superclass, or one by its qualified name, or one of its own package, or one by
a simple name that no two classes have. -/
def Determined (ks : List ReadClass) (k : ReadClass) : Prop :=
  ∀ name ∈ k.superclass,
    (∃ e ∈ ks, e.qualifiedName = name) ∨
    (∃ e ∈ ks, e.package = k.package ∧ e.simpleName = name) ∨
    (ks.filter (·.simpleName = name)).length ≤ 1

instance (ks : List ReadClass) (k : ReadClass) : Decidable (Determined ks k) :=
  inferInstanceAs (Decidable (∀ name ∈ k.superclass,
    (∃ e ∈ ks, e.qualifiedName = name) ∨
    (∃ e ∈ ks, e.package = k.package ∧ e.simpleName = name) ∨
    (ks.filter (·.simpleName = name)).length ≤ 1))

/-- A search that at most one element answers does not depend on the order. -/
theorem find?_eq_of_perm {α : Type} {l l' : List α} {p : α → Bool} (hperm : l.Perm l')
    (hone : (l.filter p).length ≤ 1) : l.find? p = l'.find? p := by
  have hfilter := hperm.filter p
  rw [← List.head?_filter, ← List.head?_filter]
  cases hl : l.filter p with
  | nil =>
    rw [hl] at hfilter
    rw [hfilter.nil_eq]
  | cons a rest =>
    have hrest : rest = [] := by
      rw [hl, List.length_cons] at hone
      exact List.eq_nil_of_length_eq_zero (by omega)
    rw [hl, hrest] at hfilter
    rw [hrest, List.singleton_perm.mp hfilter]

theorem exists_find?_eq_some {α : Type} {l : List α} {p : α → Bool} {e : α} (he : e ∈ l)
    (hp : p e = true) : ∃ x, l.find? p = some x :=
  Option.isSome_iff_exists.mp (List.find?_isSome.mpr ⟨e, he, hp⟩)

theorem DeclaredOnce.perm (h : DeclaredOnce ks) (hperm : ks.Perm ks') : DeclaredOnce ks' :=
  (hperm.map ReadClass.qualifiedName).nodup_iff.mp h

theorem withName?_eq_of_perm (h : DeclaredOnce ks) (hperm : ks.Perm ks') (q : String) :
    withName? ks q = withName? ks' q := by
  refine find?_eq_of_perm hperm ?_
  have hcount := List.nodup_iff_count_le_one.mp h q
  rwa [List.count, List.countP_map, List.countP_eq_length_filter] at hcount

theorem withName?_eq_some_iff (h : DeclaredOnce ks) :
    withName? ks q = some k ↔ k ∈ ks ∧ k.qualifiedName = q := by
  constructor
  · intro hfind
    exact ⟨List.mem_of_find?_eq_some hfind, by simpa using List.find?_some hfind⟩
  · rintro ⟨hk, rfl⟩
    obtain ⟨e, he⟩ := exists_find?_eq_some (p := fun e => e.qualifiedName = k.qualifiedName) hk
      (by simp)
    have hname : e.qualifiedName = k.qualifiedName := by simpa using List.find?_some he
    have heq := List.inj_on_of_nodup_map h (List.mem_of_find?_eq_some he) hk hname
    rw [withName?, he, heq]

/-- **A name means the same class in every order** if it is qualified, or names a class of the
package, or is the simple name of one class at most. -/
theorem meant?_eq_of_perm (h : DeclaredOnce ks) (hperm : ks.Perm ks') {package : Option String}
    (hname : (∃ e ∈ ks, e.qualifiedName = name) ∨
      (∃ e ∈ ks, e.package = package ∧ e.simpleName = name) ∨
      (ks.filter (·.simpleName = name)).length ≤ 1) :
    meant? ks name package = meant? ks' name package := by
  have hqualified := withName?_eq_of_perm h hperm
  simp only [meant?, ← hqualified]
  rcases hname with ⟨e, he, hq⟩ | ⟨e, he, hpackage, hsimple⟩ | hone
  · rw [(withName?_eq_some_iff h).mpr ⟨he, hq⟩]
    rfl
  · -- the class is found by its qualified name, with the package or as it stands
    have hq : e.qualifiedName = qualify package name := by
      rw [← hpackage, ← hsimple]
      rfl
    have hfind := (withName?_eq_some_iff h).mpr ⟨he, hq⟩
    cases package with
    | none =>
      rw [qualify] at hfind
      rw [hfind]
      rfl
    | some p =>
      rw [qualify] at hfind
      by_cases hp : p = ""
      · rw [if_pos hp] at hfind
        rw [hfind]
        rfl
      · rw [if_neg hp] at hfind
        have hfilter : (some p).filter (· ≠ "") = some p := by simp [hp]
        rw [hfilter, Option.bind_some, hfind]
        rfl
  · rw [find?_eq_of_perm hperm hone]

theorem superclassAmong_eq_of_perm (h : DeclaredOnce ks) (hperm : ks.Perm ks')
    (hk : Determined ks k) : superclassAmong ks k = superclassAmong ks' k := by
  rw [superclassAmong, superclassAmong]
  cases hs : k.superclass with
  | none => rfl
  | some name => rw [Option.bind_some, Option.bind_some, meant?_eq_of_perm h hperm (hk name hs)]

/-! ## The catalog of classes that are declared once -/

namespace Catalog

variable {c : Catalog}

theorem stored_addAll (c : Catalog) (ks : List ReadClass) :
    (c.addAll ks).stored = c.stored ++ ks.map ReadClass.declaration := by
  induction ks generalizing c with
  | nil => exact (List.append_nil _).symm
  | cons k rest ih =>
    rw [addAll_cons, ih, List.map_cons, Catalog.add, List.append_assoc, List.singleton_append]

/-- Classes with new names are listed behind the others. -/
theorem toList_listed_addAll (h : DeclaredOnce ks)
    (hnew : ∀ k ∈ ks, k.qualifiedName ∉ c.listed.keys) :
    (c.addAll ks).listed.toList =
      c.listed.toList ++ (ks.map ReadClass.qualifiedName).zipIdx c.stored.length := by
  induction ks generalizing c with
  | nil => exact (List.append_nil _).symm
  | cons k rest ih =>
    rw [DeclaredOnce, List.map_cons, List.nodup_cons] at h
    rw [List.forall_mem_cons] at hnew
    have hlisted : (c.add k.declaration k.superclass).listed.toList =
        c.listed.toList ++ [(k.qualifiedName, c.stored.length)] :=
      OrderedMap.toList_insert_of_new _ hnew.1
    have hlength : (c.add k.declaration k.superclass).stored.length = c.stored.length + 1 := by
      simp [Catalog.add]
    have hrest : ∀ e ∈ rest,
        e.qualifiedName ∉ (c.add k.declaration k.superclass).listed.keys := by
      intro e he hmem
      rcases OrderedMap.mem_keys_insert.mp hmem with heq | hold
      · exact h.1 (List.mem_map.mpr ⟨e, he, heq⟩)
      · exact hnew.2 e he hold
    rw [addAll_cons, ih h.2 hrest, hlisted, hlength, List.map_cons, List.zipIdx_cons,
      List.append_assoc, List.singleton_append]

theorem get?_addAll (ks : List ReadClass) (i : Nat) :
    (({} : Catalog).addAll ks).hierarchy.get? i = ks[i]?.map ReadClass.declaration := by
  rw [Hierarchy.get?, hierarchy, stored_addAll]
  exact List.getElem?_map

/-- A search among places is a search among what stands there. -/
theorem bind_find?_range {α : Type} (l : List α) (p : α → Bool) :
    ((List.range l.length).find? fun i => l[i]?.any p).bind (l[·]?) = l.find? p := by
  induction l with
  | nil => rfl
  | cons a rest ih =>
    rw [List.length_cons, List.range_succ_eq_map, List.find?_cons, List.find?_cons, List.find?_map]
    cases hp : p a with
    | true => simp [hp]
    | false =>
      simp only [List.getElem?_cons_zero, Option.any_some, hp]
      rw [Option.bind_map]
      exact ih

theorem bind_or {α β : Type} {a b : Option α} {f : α → Option β}
    (hf : ∀ x, a = some x → f x ≠ none) : (a.or b).bind f = (a.bind f).or (b.bind f) := by
  cases a with
  | none => rfl
  | some x =>
    obtain ⟨y, hy⟩ := Option.ne_none_iff_exists'.mp (hf x rfl)
    rw [Option.some_or, Option.bind_some, hy, Option.some_or]

section DeclaredOnce

variable (h : DeclaredOnce ks)
include h

theorem toList_listed_addAll_empty :
    (({} : Catalog).addAll ks).listed.toList = (ks.map ReadClass.qualifiedName).zipIdx :=
  toList_listed_addAll h fun _ _ => List.not_mem_nil

theorem ids_addAll : (({} : Catalog).addAll ks).ids = List.range ks.length := by
  rw [ids, OrderedMap.values, toList_listed_addAll_empty h, List.zipIdx_map_snd, List.length_map,
    List.range_eq_range']

theorem find?_addAll_eq_some_iff :
    (({} : Catalog).addAll ks).find? q = some i ↔ ∃ k, ks[i]? = some k ∧ k.qualifiedName = q := by
  have hkeys : (({} : Catalog).addAll ks).listed.keys = ks.map ReadClass.qualifiedName := by
    rw [OrderedMap.keys, toList_listed_addAll_empty h, List.zipIdx_map_fst]
  have hmem : (q, i) ∈ (({} : Catalog).addAll ks).listed.toList ↔
      ∃ k, ks[i]? = some k ∧ k.qualifiedName = q := by
    rw [toList_listed_addAll_empty h, List.mem_zipIdx_iff_getElem?, List.getElem?_map,
      Option.map_eq_some_iff]
  rw [← hmem]
  constructor
  · intro hfind
    obtain ⟨before, behind, hlisted, -⟩ := List.lookup_eq_some_iff.mp hfind
    rw [hlisted]
    simp
  · intro hlisted
    have hnodup : (({} : Catalog).addAll ks).listed.keys.Nodup := hkeys ▸ h
    exact OrderedMap.get?_eq_some_of_mem hnodup hlisted

theorem bind_find? (q : String) :
    ((({} : Catalog).addAll ks).find? q).bind (ks[·]?) = withName? ks q := by
  cases hfind : (({} : Catalog).addAll ks).find? q with
  | some i =>
    obtain ⟨k, hk, hq⟩ := (find?_addAll_eq_some_iff h).mp hfind
    exact hk.trans ((withName?_eq_some_iff h).mpr ⟨List.mem_of_getElem? hk, hq⟩).symm
  | none =>
    refine Eq.symm (Option.eq_none_iff_forall_ne_some.mpr fun k hk => ?_)
    obtain ⟨hmem, hq⟩ := (withName?_eq_some_iff h).mp hk
    obtain ⟨i, hi⟩ := List.mem_iff_getElem?.mp hmem
    rw [(find?_addAll_eq_some_iff h).mpr ⟨k, hi, hq⟩] at hfind
    cases hfind

theorem bind_findSimple? (name : String) :
    ((({} : Catalog).addAll ks).findSimple? name).bind (ks[·]?) =
      ks.find? (·.simpleName = name) := by
  have hpred : (fun id => ((({} : Catalog).addAll ks).hierarchy.get? id).any
      fun d => d.simpleName = name) = fun i => ks[i]?.any fun e => e.simpleName = name := by
    funext i
    rw [get?_addAll, Option.any_map]
    rfl
  rw [findSimple?, ids_addAll h, hpred]
  exact bind_find?_range ks fun e => e.simpleName = name

/-- **What a name means in the catalog** is found among the classes. -/
theorem bind_lookup? (name : String) (package : Option String) :
    ((({} : Catalog).addAll ks).lookup? name package).bind (ks[·]?) = meant? ks name package := by
  have hplaced : ∀ q, ∀ i, (({} : Catalog).addAll ks).find? q = some i → ks[i]? ≠ none := by
    intro q i hfind
    obtain ⟨k, hk, -⟩ := (find?_addAll_eq_some_iff h).mp hfind
    rw [hk]
    exact Option.some_ne_none k
  rw [lookup?, meant?, bind_or (hplaced name), bind_find? h]
  cases hpackage : package.filter (· ≠ "") with
  | none =>
    simp only [Option.bind_none, Option.none_or]
    rw [bind_findSimple? h]
  | some p =>
    simp only [Option.bind_some]
    rw [bind_or (hplaced _), bind_find? h, bind_findSimple? h]

theorem getElem?_of_lookup? {package : Option String}
    (hlookup : (({} : Catalog).addAll ks).lookup? name package = some i) :
    ∃ k, ks[i]? = some k := by
  have hmem := mem_ids_of_lookup? hlookup
  rw [ids_addAll h, List.mem_range] at hmem
  exact ⟨ks[i], List.getElem?_eq_getElem hmem⟩

theorem eq_of_qualifiedName_eq {e : ReadClass} (hi : ks[i]? = some k) (hj : ks[j]? = some e)
    (hname : e.qualifiedName = k.qualifiedName) : j = i := by
  have hfind := (find?_addAll_eq_some_iff h).mpr ⟨k, hi, rfl⟩
  rw [(find?_addAll_eq_some_iff h).mpr ⟨e, hj, hname⟩] at hfind
  exact Option.some.inj hfind

theorem bind_superclass? (hk : ks[i]? = some k) (name : String) :
    ((({} : Catalog).addAll ks).superclass? i name).bind (ks[·]?) =
      (meant? ks name k.package).filter (·.qualifiedName ≠ k.qualifiedName) := by
  have hpackage : ((({} : Catalog).addAll ks).hierarchy.get? i).bind TypeDeclaration.package =
      k.package := by
    rw [get?_addAll, hk]
    rfl
  rw [superclass?, hpackage, ← bind_lookup? h]
  cases hlookup : (({} : Catalog).addAll ks).lookup? name k.package with
  | none => rfl
  | some j =>
    obtain ⟨e, he⟩ := getElem?_of_lookup? h hlookup
    rw [Option.bind_some, he]
    by_cases hj : j = i
    · subst hj
      rw [hk] at he
      obtain rfl := Option.some.inj he
      rw [Option.filter_some_neg (by simp), Option.filter_some_neg (by simp), Option.bind_none]
    · have hname : e.qualifiedName ≠ k.qualifiedName := mt (eq_of_qualifiedName_eq h hk he) hj
      rw [Option.filter_some_pos (by simpa using hj), Option.filter_some_pos (by simpa using hname),
        Option.bind_some, he]

/-- **The superclass that a single link attaches** is the one among the classes. -/
theorem bind_parent?_link_addAll (hk : ks[i]? = some k) :
    ((({} : Catalog).addAll ks).link.hierarchy.parent? i).bind (ks[·]?) = superclassAmong ks k := by
  rw [parent?_link_addAll, hk, Option.bind_some, superclassAmong, Option.bind_assoc]
  exact congrArg k.superclass.bind (funext (bind_superclass? h hk))

theorem getElem?_of_parent?_link_addAll
    (hparent : (({} : Catalog).addAll ks).link.hierarchy.parent? i = some j) :
    ∃ e, ks[j]? = some e := by
  rw [parent?_link_addAll] at hparent
  obtain ⟨name, -, hname⟩ := Option.bind_eq_some_iff.mp hparent
  exact getElem?_of_lookup? h (Option.filter_eq_some_iff.mp hname).1

/-- The qualified name of the superclass. -/
theorem map_nameOf_parent?_link_addAll (hk : ks[i]? = some k) :
    ((({} : Catalog).addAll ks).link.hierarchy.parent? i).map
      (({} : Catalog).addAll ks).link.nameOf =
        (superclassAmong ks k).map ReadClass.qualifiedName := by
  rw [← bind_parent?_link_addAll h hk]
  cases hparent : (({} : Catalog).addAll ks).link.hierarchy.parent? i with
  | none => rfl
  | some j =>
    obtain ⟨e, he⟩ := getElem?_of_parent?_link_addAll h hparent
    have hname := (sameClasses_link (({} : Catalog).addAll ks)).map_get? j
      TypeDeclaration.qualifiedName fun _ => rfl
    rw [Option.map_some, nameOf, hname, get?_addAll, Option.bind_some, he]
    rfl

/-- Behind a link a class is still found by its name. -/
theorem find?_link_addAll (hk : ks[i]? = some k) :
    (({} : Catalog).addAll ks).link.find? k.qualifiedName = some i := by
  rw [find?, (sameClasses_link _).listed]
  exact (find?_addAll_eq_some_iff h).mpr ⟨k, hk, rfl⟩

end DeclaredOnce

/-! ## Two orders -/

/-- A link changes nothing but superclasses. -/
theorem exists_get?_link_addAll (hk : ks[i]? = some k) :
    ∃ d, (({} : Catalog).addAll ks).link.hierarchy.get? i = some d ∧
      d.unlinked = k.declaration.unlinked := by
  have hget := (sameClasses_link (({} : Catalog).addAll ks)).get? i
  rw [get?_addAll, hk] at hget
  exact Option.map_eq_some_iff.mp hget

/-- The same class stands at two places. -/
def SamePlace (ks ks' : List ReadClass) (i j : TypeId) : Prop :=
  ∃ k, ks[i]? = some k ∧ ks'[j]? = some k

theorem biUnique_samePlace (h : DeclaredOnce ks) (h' : DeclaredOnce ks') :
    Relator.BiUnique (SamePlace ks ks') := by
  constructor
  · rintro i j l ⟨k, hi, hl⟩ ⟨e, hj, hl'⟩
    obtain rfl := Option.some.inj (hl.symm.trans hl')
    exact eq_of_qualifiedName_eq h hj hi rfl
  · rintro i j l ⟨k, hi, hj⟩ ⟨e, hi', hl⟩
    obtain rfl := Option.some.inj (hi.symm.trans hi')
    exact eq_of_qualifiedName_eq h' hl hj rfl

theorem corresponds_samePlace (h : DeclaredOnce ks) (hperm : ks.Perm ks') :
    (({} : Catalog).addAll ks).link.hierarchy.Corresponds
      (({} : Catalog).addAll ks').link.hierarchy (SamePlace ks ks') where
  biUnique := biUnique_samePlace h (h.perm hperm)
  declared := by
    rintro i j ⟨k, hi, hj⟩
    obtain ⟨d, hd, heq⟩ := exists_get?_link_addAll hi
    obtain ⟨d', hd', heq'⟩ := exists_get?_link_addAll hj
    exact ⟨d, d', hd, hd', heq.trans heq'.symm⟩

/-- Up from a class whose superclass is determined, two orders lead to the same class. -/
theorem parentsCorrespond_samePlace (h : DeclaredOnce ks) (hperm : ks.Perm ks')
    (hdetermined : ∀ k, ks[i]? = some k → Determined ks k) :
    (({} : Catalog).addAll ks).link.hierarchy.ParentsCorrespond
      (({} : Catalog).addAll ks').link.hierarchy (SamePlace ks ks') i := by
  rintro j ⟨k, hi, hj⟩
  have hsame := superclassAmong_eq_of_perm h hperm (hdetermined k hi)
  rw [← bind_parent?_link_addAll h hi, ← bind_parent?_link_addAll (h.perm hperm) hj] at hsame
  cases hp : (({} : Catalog).addAll ks).link.hierarchy.parent? i with
  | none =>
    cases hp' : (({} : Catalog).addAll ks').link.hierarchy.parent? j with
    | none => exact .none
    | some parent' =>
      obtain ⟨e, he⟩ := getElem?_of_parent?_link_addAll (h.perm hperm) hp'
      rw [hp, hp', Option.bind_some, he] at hsame
      cases hsame
  | some parent =>
    obtain ⟨e, he⟩ := getElem?_of_parent?_link_addAll h hp
    rw [hp, Option.bind_some, he] at hsame
    cases hp' : (({} : Catalog).addAll ks').link.hierarchy.parent? j with
    | none =>
      rw [hp'] at hsame
      cases hsame
    | some parent' =>
      rw [hp'] at hsame
      exact .some ⟨e, he, hsame.symm⟩

/-- The catalog of some sources, which are linked when all are read. -/
def readAll (sources : List String) : Catalog :=
  ({} : Catalog).afterAll (sources.map .parse ++ [.link])

theorem readAll_eq (sources : List String) :
    readAll sources = (({} : Catalog).addAll (sources.flatMap classesOf)).link := by
  have hparse : ∀ c : Catalog, c.afterAll (sources.map .parse) =
      c.addAll (sources.flatMap classesOf) := by
    induction sources with
    | nil => exact fun c => rfl
    | cons source rest ih =>
      intro c
      rw [List.flatMap_cons, addAll_append, ← after_parse, ← ih]
      rfl
  rw [readAll, afterAll_concat, hparse]
  rfl

/-- **The order of the sources does not count.**  In whatever order sources are read that declare no
class twice, every class is listed.  If its superclass is determined, it has the same
superclass in both orders.  If that holds all along its lineage, it has the same accessors, the same
objections are made to it, and the same builder is generated for it. -/
theorem readAll_of_perm {sources sources' : List String} (hperm : sources.Perm sources')
    (honce : DeclaredOnce (sources.flatMap classesOf)) :
    ∀ k ∈ sources.flatMap classesOf, ∃ id id' b b',
      (readAll sources).find? k.qualifiedName = some id ∧
      (readAll sources').find? k.qualifiedName = some id' ∧
      (readAll sources).hierarchy.bean? id = some b ∧
      (readAll sources').hierarchy.bean? id' = some b' ∧
      (Determined (sources.flatMap classesOf) k →
        ((readAll sources).hierarchy.parent? id).map (readAll sources).nameOf =
          ((readAll sources').hierarchy.parent? id').map (readAll sources').nameOf) ∧
      ((∀ i ∈ (readAll sources).hierarchy.lineage id, ∀ e,
          (sources.flatMap classesOf)[i]? = some e → Determined (sources.flatMap classesOf) e) →
        b.accessors = b'.accessors ∧
        (∀ strict requireConstructor,
          b.objections strict requireConstructor = b'.objections strict requireConstructor) ∧
        ∀ (style : BuilderStyle) (containers : Containers),
          style.generate? containers b = style.generate? containers b') := by
  intro k hk
  have hclasses : (sources.flatMap classesOf).Perm (sources'.flatMap classesOf) :=
    hperm.flatMap_right classesOf
  have honce' := honce.perm hclasses
  obtain ⟨i, hi⟩ := List.mem_iff_getElem?.mp hk
  obtain ⟨j, hj⟩ := List.mem_iff_getElem?.mp (hclasses.subset hk)
  have hplace : SamePlace (sources.flatMap classesOf) (sources'.flatMap classesOf) i j :=
    ⟨k, hi, hj⟩
  have hcorresponds := corresponds_samePlace honce hclasses
  obtain ⟨d, d', hd, hd', -⟩ := hcorresponds.declared i j hplace
  rw [readAll_eq, readAll_eq]
  refine ⟨i, j, _, _, find?_link_addAll honce hi, find?_link_addAll honce' hj,
    congrArg (Option.map _) hd, congrArg (Option.map _) hd', fun hdetermined => ?_,
    fun hlineage => ?_⟩
  · rw [map_nameOf_parent?_link_addAll honce hi, map_nameOf_parent?_link_addAll honce' hj,
      superclassAmong_eq_of_perm honce hclasses hdetermined]
  · have hbean := hcorresponds.bean?_eq hplace fun l hl =>
      parentsCorrespond_samePlace honce hclasses (hlineage l hl)
    rw [Hierarchy.bean?, Hierarchy.bean?, hd, hd'] at hbean
    rw [Option.some.inj hbean]
    exact ⟨rfl, fun _ _ => rfl, fun _ _ => rfl⟩

/-- A class with two superclasses above it, one imported and one of its own package. -/
def threeFiles : List String :=
  ["package p; class A { int getX() { return 1; } }",
    "package q; import p.A; class B extends A { }",
    "package q; class C extends B { }"]

theorem readAll_of_perm_threeFiles :
    ∃ id id' b b', (readAll threeFiles).find? "q.C" = some id ∧
      (readAll threeFiles.reverse).find? "q.C" = some id' ∧
      (readAll threeFiles).hierarchy.bean? id = some b ∧
      (readAll threeFiles.reverse).hierarchy.bean? id' = some b' ∧
      ((readAll threeFiles).hierarchy.parent? id).map (readAll threeFiles).nameOf =
        ((readAll threeFiles.reverse).hierarchy.parent? id').map
          (readAll threeFiles.reverse).nameOf ∧
      b.accessors = b'.accessors := by
  have hread : DeclaredOnce (threeFiles.flatMap classesOf) ∧
      (∀ e ∈ threeFiles.flatMap classesOf, Determined (threeFiles.flatMap classesOf) e) ∧
      ∃ k ∈ threeFiles.flatMap classesOf, k.qualifiedName = "q.C" := by
    decide +kernel
  obtain ⟨honce, hdetermined, k, hk, hname⟩ := hread
  obtain ⟨id, id', b, b', hfind, hfind', hbean, hbean', hparent, halike⟩ :=
    readAll_of_perm (List.reverse_perm threeFiles).symm honce k hk
  rw [hname] at hfind hfind'
  exact ⟨id, id', b, b', hfind, hfind', hbean, hbean', hparent (hdetermined k hk),
    (halike fun i _ e he => hdetermined e (List.mem_of_getElem? he)).1⟩

/-- Where two packages have a class of the name, the first one that was read is taken. -/
example :
    let files := ["package p; class A { }", "package r; class A { }",
      "package q; class B extends A { }"]
    let superclass := fun c : Catalog =>
      ((c.find? "q.B").bind c.hierarchy.parent?).map c.nameOf
    superclass (readAll files) = some "p.A" ∧ superclass (readAll files.reverse) = some "r.A" := by
  decide +kernel

end Catalog

end Java
end BeanBuilder
