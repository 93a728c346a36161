import BeanBuilder.Proofs.Files.Walk
import BeanBuilder.Proofs.Java.PackageMates

/-! # Files that are read again

A directory may be given together with files and directories in it; their files are read twice then.
A class that is read again takes the place of the first one in the list.  The first one stays in
store, and waits for its superclass too, but no name means it any more.

So what is listed is decided by the names in the order in which they came, and by the last class of
each name (`Likewise`).  Two catalogs that agree in this list the same classes at places that
correspond (`SameName`), a name means corresponding classes in both, and one link attaches
corresponding superclasses (`Likewise.parentsCorrespond`), in a circle or not.  Classes that are not
listed correspond to nothing.

Reading a file again gives its classes the same last declarations, as long as no other file declares
a class of theirs (`likewise_of_filesAmong`).
-/
namespace BeanBuilder
namespace Java

open Files

/-! ## Lists and options side by side -/

section Rel

variable {α β γ : Type} {R : α → β → Prop} {as : List α} {bs : List β} {a a' : Option α}
  {b b' : Option β}

theorem forall₂_filterMap {f : γ → Option α} {g : γ → Option β}
    (h : ∀ x, Option.Rel R (f x) (g x)) (xs : List γ) :
    List.Forall₂ R (xs.filterMap f) (xs.filterMap g) := by
  induction xs with
  | nil => exact .nil
  | cons x rest ih =>
    have hx := h x
    rw [List.filterMap_cons, List.filterMap_cons]
    generalize f x = a, g x = b at hx
    cases hx with
    | none => exact ih
    | some hab => exact .cons hab ih

theorem rel_find? {p : α → Bool} {p' : β → Bool} (h : List.Forall₂ R as bs)
    (hp : ∀ a b, R a b → p a = p' b) : Option.Rel R (as.find? p) (bs.find? p') := by
  induction h with
  | nil => exact .none
  | @cons a b as bs hab _ ih =>
    rw [List.find?_cons, List.find?_cons, ← hp a b hab]
    cases p a with
    | true => exact .some hab
    | false => exact ih

theorem rel_or (h : Option.Rel R a b) (h' : Option.Rel R a' b') :
    Option.Rel R (a.or a') (b.or b') := by
  cases h with
  | none => exact h'
  | some hab => exact .some hab

theorem rel_filter {p : α → Bool} {p' : β → Bool} (h : Option.Rel R a b)
    (hp : ∀ a b, R a b → p a = p' b) : Option.Rel R (a.filter p) (b.filter p') := by
  cases h with
  | none => exact .none
  | @some a b hab =>
    rw [Option.filter, Option.filter, ← hp a b hab]
    split
    · exact .some hab
    · exact .none

theorem map_eq_of_rel {f : α → γ} {g : β → γ} (h : Option.Rel R a b)
    (hfg : ∀ a b, R a b → f a = g b) : a.map f = b.map g := by
  cases h with
  | none => rfl
  | some hab => exact congrArg some (hfg _ _ hab)

theorem filterMap_eq_of_forall₂ {f : α → Option γ} {g : β → Option γ} (h : List.Forall₂ R as bs)
    (hfg : ∀ a b, R a b → f a = g b) : as.filterMap f = bs.filterMap g := by
  induction h with
  | nil => rfl
  | @cons a b as bs hab _ ih => rw [List.filterMap_cons, List.filterMap_cons, hfg a b hab, ih]

theorem map_eq_of_forall₂ {f : α → γ} {g : β → γ} (h : List.Forall₂ R as bs)
    (hfg : ∀ a b, R a b → f a = g b) : as.map f = bs.map g := by
  rw [← List.forall₂_eq_eq_eq, List.forall₂_map_left_iff, List.forall₂_map_right_iff]
  exact h.imp hfg

end Rel

/-! ## The last class of a name -/

variable {ks ks' more : List ReadClass} {k : ReadClass} {q : String} {i j : TypeId}

/-- The last class with a qualified name. -/
def lastNamed? (ks : List ReadClass) (q : String) : Option ReadClass :=
  (ks.filter (·.qualifiedName = q)).getLast?

theorem lastNamed?_append (ks more : List ReadClass) (q : String) :
    lastNamed? (ks ++ more) q = (lastNamed? more q).or (lastNamed? ks q) := by
  rw [lastNamed?, List.filter_append, List.getLast?_append]
  rfl

theorem lastNamed?_eq_none_iff : lastNamed? ks q = none ↔ ∀ k ∈ ks, k.qualifiedName ≠ q := by
  rw [lastNamed?, List.getLast?_eq_none_iff, List.filter_eq_nil_iff]
  simp only [decide_eq_true_eq, ne_eq]

theorem lastNamed?_ne_none (hk : k ∈ ks) (hq : k.qualifiedName = q) : lastNamed? ks q ≠ none :=
  fun hnone => lastNamed?_eq_none_iff.mp hnone k hk hq

theorem mem_of_lastNamed? (h : lastNamed? ks q = some k) : k ∈ ks ∧ k.qualifiedName = q := by
  have hmem := List.mem_filter.mp (List.mem_of_getLast? h)
  exact ⟨hmem.1, of_decide_eq_true hmem.2⟩

namespace Catalog

theorem getElem?_of_find? (hfind : (({} : Catalog).addAll ks).find? q = some i) :
    ∃ k, ks[i]? = some k ∧ k.qualifiedName = q := by
  have hname := map_qualifiedName_of_find? hfind
  rw [get?_addAll, Option.map_map] at hname
  exact Option.map_eq_some_iff.mp hname

/-- **The class that is found under a name is the last one that was read.** -/
theorem bind_find?_addAll (ks : List ReadClass) (q : String) :
    ((({} : Catalog).addAll ks).find? q).bind (ks[·]?) = lastNamed? ks q := by
  induction ks using List.reverseRecOn with
  | nil => rfl
  | append_singleton ks k ih =>
    have hfind : (({} : Catalog).addAll (ks ++ [k])).find? q =
        if q = k.qualifiedName then some ks.length else (({} : Catalog).addAll ks).find? q := by
      have hlength : (({} : Catalog).addAll ks).stored.length = ks.length := by
        rw [length_stored_addAll]
        exact Nat.zero_add _
      rw [addAll_append, ← hlength]
      exact OrderedMap.get?_insert _ _ _ _
    rw [hfind, lastNamed?_append, ← ih]
    by_cases hq : q = k.qualifiedName
    · rw [if_pos hq, Option.bind_some, List.getElem?_concat_length]
      have hlast : lastNamed? [k] q = some k := by simp [lastNamed?, hq]
      rw [hlast, Option.some_or]
    · have hlast : lastNamed? [k] q = none :=
        lastNamed?_eq_none_iff.mpr (List.forall_mem_singleton.mpr (Ne.symm hq))
      rw [if_neg hq, hlast, Option.none_or]
      cases hold : (({} : Catalog).addAll ks).find? q with
      | none => rfl
      | some i =>
        obtain ⟨e, he, -⟩ := getElem?_of_find? hold
        rw [Option.bind_some, Option.bind_some,
          List.getElem?_append_left (List.getElem?_eq_some_iff.mp he).1]

/-! ## Catalogs that list the same classes -/

/-- The same class is listed at two places. -/
def SameName (ks ks' : List ReadClass) (i j : TypeId) : Prop :=
  ∃ q, (({} : Catalog).addAll ks).find? q = some i ∧ (({} : Catalog).addAll ks').find? q = some j

theorem SameName.symm (h : SameName ks ks' i j) : SameName ks' ks j i := by
  obtain ⟨q, hi, hj⟩ := h
  exact ⟨q, hj, hi⟩

/-- No place is found under two names. -/
theorem eq_of_find?_eq {q' : String} (h : (({} : Catalog).addAll ks).find? q = some i)
    (h' : (({} : Catalog).addAll ks).find? q' = some i) : q = q' := by
  obtain ⟨k, hk, rfl⟩ := getElem?_of_find? h
  obtain ⟨e, he, rfl⟩ := getElem?_of_find? h'
  rw [Option.some.inj (hk.symm.trans he)]

theorem leftUnique_sameName (ks ks' : List ReadClass) : Relator.LeftUnique (SameName ks ks') := by
  rintro i j l ⟨q, hi, hl⟩ ⟨q', hj, hl'⟩
  obtain rfl := eq_of_find?_eq hl hl'
  exact Option.some.inj (hi.symm.trans hj)

theorem biUnique_sameName (ks ks' : List ReadClass) : Relator.BiUnique (SameName ks ks') :=
  ⟨leftUnique_sameName ks ks', fun _ _ _ h h' => leftUnique_sameName ks' ks h.symm h'.symm⟩

/-- The same names are listed in the same order, and the last class of each name is the same. -/
structure Likewise (ks ks' : List ReadClass) : Prop where
  keys : (({} : Catalog).addAll ks).listed.keys = (({} : Catalog).addAll ks').listed.keys
  last : ∀ q, lastNamed? ks q = lastNamed? ks' q

section Likewise

variable (h : Likewise ks ks')
include h

theorem Likewise.rel_find? (q : String) :
    Option.Rel (SameName ks ks') ((({} : Catalog).addAll ks).find? q)
      ((({} : Catalog).addAll ks').find? q) := by
  have hsome : ((({} : Catalog).addAll ks).find? q).isSome ↔
      ((({} : Catalog).addAll ks').find? q).isSome := by
    rw [find?, find?, OrderedMap.isSome_get?_iff, OrderedMap.isSome_get?_iff, h.keys]
  cases hi : (({} : Catalog).addAll ks).find? q with
  | none =>
    cases hj : (({} : Catalog).addAll ks').find? q with
    | none => exact .none
    | some j =>
      rw [hi, hj] at hsome
      cases hsome.mpr rfl
  | some i =>
    cases hj : (({} : Catalog).addAll ks').find? q with
    | none =>
      rw [hi, hj] at hsome
      cases hsome.mp rfl
    | some j => exact .some ⟨q, hi, hj⟩

/-- At places that correspond the same class was read. -/
theorem Likewise.getElem?_eq (hij : SameName ks ks' i j) : ks[i]? = ks'[j]? := by
  obtain ⟨q, hi, hj⟩ := hij
  have hlast := h.last q
  rw [← bind_find?_addAll, ← bind_find?_addAll, hi, hj] at hlast
  exact hlast

theorem Likewise.exists_getElem? (hij : SameName ks ks' i j) :
    ∃ k, ks[i]? = some k ∧ ks'[j]? = some k := by
  have heq := h.getElem?_eq hij
  obtain ⟨q, hi, -⟩ := hij
  obtain ⟨k, hk, -⟩ := getElem?_of_find? hi
  exact ⟨k, hk, heq.symm.trans hk⟩

/-- **The listed classes correspond**, one after another. -/
theorem Likewise.forall₂_ids :
    List.Forall₂ (SameName ks ks') (({} : Catalog).addAll ks).ids
      (({} : Catalog).addAll ks').ids := by
  rw [ids, ids, OrderedMap.values_eq_filterMap (listsNames_empty.addAll ks).nodup,
    OrderedMap.values_eq_filterMap (listsNames_empty.addAll ks').nodup, h.keys]
  exact forall₂_filterMap h.rel_find? _

theorem Likewise.rel_findSimple? (name : String) :
    Option.Rel (SameName ks ks') ((({} : Catalog).addAll ks).findSimple? name)
      ((({} : Catalog).addAll ks').findSimple? name) := by
  refine Java.rel_find? h.forall₂_ids fun i j hij => ?_
  rw [get?_addAll, get?_addAll, h.getElem?_eq hij]

/-- **A name means corresponding classes** in both catalogs. -/
theorem Likewise.rel_lookup? (name : String) (package : Option String) :
    Option.Rel (SameName ks ks') ((({} : Catalog).addAll ks).lookup? name package)
      ((({} : Catalog).addAll ks').lookup? name package) := by
  have hpackage : Option.Rel (SameName ks ks')
      ((package.filter (· ≠ "")).bind fun p => (({} : Catalog).addAll ks).find? (p ++ "." ++ name))
      ((package.filter (· ≠ "")).bind fun p =>
        (({} : Catalog).addAll ks').find? (p ++ "." ++ name)) := by
    cases package.filter (· ≠ "") with
    | none => exact .none
    | some p => exact h.rel_find? _
  exact rel_or (h.rel_find? name) (rel_or hpackage (h.rel_findSimple? name))

/-- Corresponding classes have corresponding superclasses. -/
theorem Likewise.parentsCorrespond (i : TypeId) :
    (({} : Catalog).addAll ks).link.hierarchy.ParentsCorrespond
      (({} : Catalog).addAll ks').link.hierarchy (SameName ks ks') i := by
  intro j hij
  obtain ⟨k, hi, hj⟩ := h.exists_getElem? hij
  rw [parent?_link_addAll, parent?_link_addAll, hi, hj, Option.bind_some]
  cases k.superclass with
  | none => exact .none
  | some name =>
    rw [Option.bind_some, Option.bind_some, superclass?, superclass?, get?_addAll, get?_addAll, hi,
      hj]
    refine rel_filter (h.rel_lookup? name _) fun l m hlm => ?_
    -- a class is its own superclass in neither catalog or in both
    have hself : l = i ↔ m = j := by
      constructor
      · rintro rfl
        exact (biUnique_sameName ks ks').2 hlm hij
      · rintro rfl
        exact (biUnique_sameName ks ks').1 hlm hij
    simp only [ne_eq, hself]

theorem Likewise.corresponds :
    (({} : Catalog).addAll ks).link.hierarchy.Corresponds
      (({} : Catalog).addAll ks').link.hierarchy (SameName ks ks') where
  biUnique := biUnique_sameName ks ks'
  declared := by
    intro i j hij
    obtain ⟨k, hi, hj⟩ := h.exists_getElem? hij
    obtain ⟨d, hd, heq⟩ := exists_get?_link_addAll hi
    obtain ⟨d', hd', heq'⟩ := exists_get?_link_addAll hj
    exact ⟨d, d', hd, hd', heq.trans heq'.symm⟩

end Likewise

/-- What corresponds is listed. -/
theorem SameName.mem_ids (hij : SameName ks ks' i j) :
    i ∈ (({} : Catalog).addAll ks).link.ids ∧ j ∈ (({} : Catalog).addAll ks').link.ids := by
  have hlisted : ∀ {ks q i}, (({} : Catalog).addAll ks).find? q = some i →
      i ∈ (({} : Catalog).addAll ks).link.ids := by
    intro ks q i hfind
    rw [ids, (sameClasses_link _).listed]
    exact List.mem_map_of_mem (OrderedMap.mem_of_get?_eq_some (e := (q, i)) hfind)
  obtain ⟨q, hi, hj⟩ := hij
  exact ⟨hlisted hi, hlisted hj⟩

/-- The qualified name of the superclass that a class has. -/
def superclassName? (c : Catalog) (id : TypeId) : Option String :=
  (c.hierarchy.parent? id).map c.nameOf

/-- Two linked catalogs list the same classes: the names in the same order, the beans, and the
superclasses, by their names and as classes of the lists. -/
structure SameTypes (c c' : Catalog) : Prop where
  keys : c.listed.keys = c'.listed.keys
  beans : c.beans = c'.beans
  superclassNames : c.ids.map c.superclassName? = c'.ids.map c'.superclassName?
  graph : ∃ R, c.hierarchy.Corresponds c'.hierarchy R ∧ List.Forall₂ R c.ids c'.ids ∧
    (∀ i j, R i j → i ∈ c.ids ∧ j ∈ c'.ids) ∧ ∀ i, c.hierarchy.ParentsCorrespond c'.hierarchy R i

theorem Likewise.sameTypes (h : Likewise ks ks') :
    (({} : Catalog).addAll ks).link.SameTypes (({} : Catalog).addAll ks').link := by
  have hids : List.Forall₂ (SameName ks ks') (({} : Catalog).addAll ks).link.ids
      (({} : Catalog).addAll ks').link.ids := by
    rw [ids, ids, (sameClasses_link _).listed, (sameClasses_link _).listed]
    exact h.forall₂_ids
  have hname : ∀ i j, SameName ks ks' i j →
      (({} : Catalog).addAll ks).link.nameOf i = (({} : Catalog).addAll ks').link.nameOf j := by
    intro i j hij
    obtain ⟨d, d', hd, hd', heq⟩ := h.corresponds.declared i j hij
    have hqualified : d.unlinked.qualifiedName = d'.unlinked.qualifiedName :=
      congrArg TypeDeclaration.qualifiedName heq
    rw [nameOf, nameOf, hd, hd', Option.map_some, Option.map_some]
    exact congrArg (fun name => (some name).getD "") hqualified
  refine ⟨?_, ?_, ?_, SameName ks ks', h.corresponds, hids, fun _ _ => SameName.mem_ids,
    h.parentsCorrespond⟩
  · rw [(sameClasses_link _).listed, (sameClasses_link _).listed]
    exact h.keys
  · exact filterMap_eq_of_forall₂ hids fun i j hij =>
      h.corresponds.bean?_eq hij fun l _ => h.parentsCorrespond l
  · exact map_eq_of_forall₂ hids fun i j hij => map_eq_of_rel (h.parentsCorrespond i j hij) hname

/-! ## Reading more -/

theorem keys_addAll_of_mem {c : Catalog} (h : ∀ k ∈ ks, k.qualifiedName ∈ c.listed.keys) :
    (c.addAll ks).listed.keys = c.listed.keys := by
  induction ks generalizing c with
  | nil => rfl
  | cons k rest ih =>
    rw [List.forall_mem_cons] at h
    have hkeys : (c.add k.declaration k.superclass).listed.keys = c.listed.keys :=
      (OrderedMap.keys_insert _ _ _).trans (if_pos h.1)
    rw [addAll_cons, ih fun e he => hkeys ▸ h.2 e he, hkeys]

/-- Reading more classes lists nothing else, if the last class of each name is the last one
already. -/
theorem likewise_append (h : ∀ q, lastNamed? more q = none ∨ lastNamed? more q = lastNamed? ks q) :
    Likewise ks (ks ++ more) where
  keys := by
    rw [addAll_append]
    refine (keys_addAll_of_mem fun k hk => ?_).symm
    refine (mem_keys_addAll {} ks k.qualifiedName).mpr (Or.inr ?_)
    have hnone := lastNamed?_ne_none hk rfl
    obtain ⟨e, he⟩ := Option.ne_none_iff_exists'.mp hnone
    exact ⟨e, mem_of_lastNamed? (((h _).resolve_left hnone) ▸ he)⟩
  last := by
    intro q
    rw [lastNamed?_append]
    rcases h q with hnone | hsame
    · rw [hnone, Option.none_or]
    · rw [hsame]
      cases lastNamed? ks q <;> rfl

end Catalog

/-! ## Files -/

variable {t : Tree} {name name' : String} {names others : List String} {place : Place}

/-- The place of the file that a name leads to, if it can be read. -/
def fileRead? (t : Tree) (name : String) : Option Place :=
  match t.read name with
  | .ok _ => (t.place? (Path.ofString name)).toOption
  | .error _ => none

theorem exists_place_of_read {bytes : ByteArray} (h : t.read name = .ok bytes) :
    ∃ place, fileRead? t name = some place ∧ t.find? place = some (.file bytes) := by
  obtain ⟨place, hplace, hfind⟩ := except_bind_eq_ok_iff.mp (Catalog.entry?_of_read h)
  refine ⟨place, by rw [fileRead?, h, hplace]; rfl, ?_⟩
  cases hat : t.find? place with
  | none =>
    rw [hat] at hfind
    cases hfind
  | some entry =>
    rw [hat] at hfind
    exact congrArg some (except_pure_eq_ok_iff.mp hfind).symm

theorem read_of_fileRead? (h : fileRead? t name = some place) :
    ∃ bytes, t.read name = .ok bytes ∧ t.find? place = some (.file bytes) := by
  cases hread : t.read name with
  | error e =>
    rw [fileRead?, hread] at h
    cases h
  | ok bytes =>
    obtain ⟨place', hplace, hfind⟩ := exists_place_of_read hread
    rw [h] at hplace
    cases hplace
    exact ⟨bytes, rfl, hfind⟩

theorem classesIn_of_fileRead?_eq_none (h : fileRead? t name = none) : classesIn t name = [] := by
  cases hread : t.read name with
  | ok bytes =>
    obtain ⟨place, hplace, -⟩ := exists_place_of_read hread
    rw [h] at hplace
    cases hplace
  | error e =>
    have hsource : sourceOf t name = .error (.unreadable e) := by
      rw [sourceOf, Catalog.readText, hread]
      rfl
    rw [classesIn, hsource]

/-- **A file declares the same classes under all its names.** -/
theorem classesIn_eq_of_fileRead? (h : fileRead? t name = fileRead? t name') :
    classesIn t name = classesIn t name' := by
  cases hplace : fileRead? t name with
  | none =>
    rw [classesIn_of_fileRead?_eq_none hplace, classesIn_of_fileRead?_eq_none (h ▸ hplace)]
  | some place =>
    obtain ⟨bytes, hread, hfind⟩ := read_of_fileRead? hplace
    obtain ⟨bytes', hread', hfind'⟩ := read_of_fileRead? (h ▸ hplace)
    rw [hfind] at hfind'
    cases hfind'
    simp only [classesIn, sourceOf, Catalog.readText, hread, hread']

/-- No two different files among some declare the same class.  One file may declare it twice. -/
def DeclareApart (t : Tree) (names : List String) : Prop :=
  ∀ name ∈ names, ∀ name' ∈ names, ∀ k ∈ classesIn t name, ∀ k' ∈ classesIn t name',
    k.qualifiedName = k'.qualifiedName → fileRead? t name = fileRead? t name'

instance (t : Tree) (names : List String) : Decidable (DeclareApart t names) :=
  inferInstanceAs (Decidable (∀ name ∈ names, ∀ name' ∈ names, ∀ k ∈ classesIn t name,
    ∀ k' ∈ classesIn t name', k.qualifiedName = k'.qualifiedName →
      fileRead? t name = fileRead? t name'))

/-- All files of some names that can be read are among those of others. -/
def FilesAmong (t : Tree) (names others : List String) : Prop :=
  ∀ name ∈ names, (fileRead? t name).isSome →
    ∃ other ∈ others, fileRead? t other = fileRead? t name

instance (t : Tree) (names others : List String) : Decidable (FilesAmong t names others) :=
  inferInstanceAs (Decidable (∀ name ∈ names, (fileRead? t name).isSome →
    ∃ other ∈ others, fileRead? t other = fileRead? t name))

theorem filesAmong_of_subset (h : names ⊆ others) : FilesAmong t names others :=
  fun name hname _ => ⟨name, h hname, rfl⟩

/-- Where only one file declares classes of a name, its last one is the last of all. -/
theorem lastNamed?_flatMap_classesIn {ks : List ReadClass}
    (h : ∀ name ∈ names, ∀ k ∈ classesIn t name, k.qualifiedName = q → classesIn t name = ks) :
    lastNamed? (names.flatMap (classesIn t)) q = none ∨
      lastNamed? (names.flatMap (classesIn t)) q = lastNamed? ks q := by
  induction names with
  | nil => exact Or.inl rfl
  | cons name rest ih =>
    rw [List.forall_mem_cons] at h
    have hfirst : lastNamed? (classesIn t name) q = none ∨
        lastNamed? (classesIn t name) q = lastNamed? ks q := by
      cases hlast : lastNamed? (classesIn t name) q with
      | none => exact Or.inl rfl
      | some k =>
        obtain ⟨hk, hname⟩ := mem_of_lastNamed? hlast
        rw [← h.1 k hk hname]
        exact Or.inr hlast.symm
    rw [List.flatMap_cons, lastNamed?_append]
    rcases ih h.2 with hnone | hrest
    · rw [hnone, Option.none_or]
      exact hfirst
    · rw [hrest]
      cases hlast : lastNamed? ks q with
      | none =>
        rw [hlast, or_self] at hfirst
        rw [hfirst]
        exact Or.inl rfl
      | some k => exact Or.inr rfl

/-- What a file among others declares is declared by one of these. -/
theorem FilesAmong.exists_classesIn_eq (h : FilesAmong t names others) (hname : name ∈ names)
    (hk : k ∈ classesIn t name) : ∃ other ∈ others, classesIn t other = classesIn t name := by
  have hread : (fileRead? t name).isSome := by
    rw [Option.isSome_iff_ne_none]
    intro hnone
    rw [classesIn_of_fileRead?_eq_none hnone] at hk
    exact absurd hk List.not_mem_nil
  obtain ⟨other, hother, hsame⟩ := h name hname hread
  exact ⟨other, hother, classesIn_eq_of_fileRead? hsame⟩

/-- **Reading files again** changes neither the names nor the last class of any of them. -/
theorem likewise_of_filesAmong (hapart : DeclareApart t others)
    (hamong : FilesAmong t names others) :
    Catalog.Likewise (others.flatMap (classesIn t))
      (others.flatMap (classesIn t) ++ names.flatMap (classesIn t)) := by
  refine Catalog.likewise_append fun q => ?_
  by_cases hq : ∃ name ∈ names, ∃ k ∈ classesIn t name, k.qualifiedName = q
  · obtain ⟨name, hname, k, hk, hkq⟩ := hq
    obtain ⟨file, hfile, hsame⟩ := hamong.exists_classesIn_eq hname hk
    have hkfile : k ∈ classesIn t file := hsame ▸ hk
    -- this file is the only one that declares the name
    have hothers : ∀ other ∈ others, ∀ e ∈ classesIn t other, e.qualifiedName = q →
        classesIn t other = classesIn t file := by
      intro other hother e he heq
      exact classesIn_eq_of_fileRead?
        (hapart other hother file hfile e he k hkfile (heq.trans hkq.symm))
    have hnames : ∀ name ∈ names, ∀ e ∈ classesIn t name, e.qualifiedName = q →
        classesIn t name = classesIn t file := by
      intro name hname e he heq
      obtain ⟨other, hother, hsame⟩ := hamong.exists_classesIn_eq hname he
      rw [← hsame]
      exact hothers other hother e (hsame ▸ he) heq
    have hread := lastNamed?_ne_none (List.mem_flatMap.mpr ⟨name, hname, hk⟩) hkq
    have hbefore := lastNamed?_ne_none (List.mem_flatMap.mpr ⟨file, hfile, hkfile⟩) hkq
    right
    rw [(lastNamed?_flatMap_classesIn hnames).resolve_left hread,
      (lastNamed?_flatMap_classesIn hothers).resolve_left hbefore]
  · refine Or.inl (lastNamed?_eq_none_iff.mpr fun k hk hkq => hq ?_)
    obtain ⟨name, hname, hk⟩ := List.mem_flatMap.mp hk
    exact ⟨name, hname, k, hk, hkq⟩

namespace Catalog

theorem catalog_readPaths_append (t : Tree) (paths again : List String) :
    (({} : Catalog).readPaths t (paths ++ again)).catalog =
      (({} : Catalog).addAll ((expandAll t paths).flatMap (classesIn t) ++
        (expandAll t again).flatMap (classesIn t))).link := by
  have happend : expandAll t (paths ++ again) = expandAll t paths ++ expandAll t again :=
    List.flatMap_append
  rw [catalog_readPaths, happend, List.flatMap_append]

/-- Every class that is read is listed. -/
theorem mem_keys_readPaths {t : Tree} {paths : List String} {file : String} {k : ReadClass}
    (hfile : file ∈ expandAll t paths) (hk : k ∈ classesIn t file) :
    k.qualifiedName ∈ (({} : Catalog).readPaths t paths).catalog.listed.keys := by
  rw [catalog_readPaths, (sameClasses_link _).listed, mem_keys_addAll]
  exact Or.inr ⟨k, List.mem_flatMap.mpr ⟨file, hfile, hk⟩, rfl⟩

/-- A directory of a directory that is given need not be given as well. -/
theorem sameTypes_readPaths_subdirectory {t : Tree} {paths : List String} {directory name : String}
    {place : Place} (hapart : DeclareApart t (expandAll t paths)) (hmem : directory ∈ paths)
    (hdirectory : directory ≠ "") (hplace : t.place? (Path.ofString directory) = .ok place)
    (hfound : t.isDirectoryAt place = true) (hdown : leadsDown name = true)
    (hname : Path.IsPart name)
    (hinner : t.place? (Path.ofString (Tree.nameBelow directory [name])) = .ok (place ++ [name]))
    (hsub : t.isDirectoryAt (place ++ [name]) = true) :
    (({} : Catalog).readPaths t paths).catalog.SameTypes
      (({} : Catalog).readPaths t (paths ++ [Tree.nameBelow directory [name]])).catalog := by
  rw [catalog_readPaths, catalog_readPaths_append]
  refine (likewise_of_filesAmong hapart (filesAmong_of_subset fun file hfile => ?_)).sameTypes
  rw [expandAll, List.flatMap_singleton] at hfile
  exact List.mem_flatMap.mpr ⟨directory, hmem,
    Tree.expand_subset_expand hdirectory hplace hfound hdown hname hinner hsub ".java" hfile⟩

/-- **Giving files again changes nothing.**  If no two different files that some paths stand for
declare the same class, then more paths that stand for no other files leave the same types behind:
the same classes in the same order, with the same accessors, inherited ones included, the same
constructors and annotations, and linked to the same superclasses, in circles or not.  A file is
told by its place, so it counts as the same under all its names.  Every class of the files is among
these types. -/
theorem sameTypes_readPaths_append (t : Tree) (paths again : List String)
    (hapart : DeclareApart t (expandAll t paths))
    (hamong : FilesAmong t (expandAll t again) (expandAll t paths)) :
    (({} : Catalog).readPaths t paths).catalog.SameTypes
        (({} : Catalog).readPaths t (paths ++ again)).catalog ∧
      ∀ file ∈ expandAll t paths, ∀ k ∈ classesIn t file,
        k.qualifiedName ∈ (({} : Catalog).readPaths t paths).catalog.listed.keys := by
  refine ⟨?_, fun file hfile k hk => mem_keys_readPaths hfile hk⟩
  rw [catalog_readPaths, catalog_readPaths_append]
  exact (likewise_of_filesAmong hapart hamong).sameTypes

/-- A class that extends itself, and two that extend each other. -/
def circularTree : Tree where
  entries :=
    [(["src"], .directory),
      (["src", "A.java"], .file "class A extends A { }".toUTF8),
      (["src", "p"], .directory),
      (["src", "p", "B.java"], .file "package p; class B extends C { }".toUTF8),
      (["src", "p", "C.java"], .file "package p; class C extends B { int getX(); }".toUTF8)]

/-- A directory inside the other one, and a file in it under another name. -/
def givenAgain : List String :=
  ["src/p", "src/../src/A.java"]

theorem sameTypes_readPaths_append_circularTree :
    let c := (({} : Catalog).readPaths circularTree (["src"] ++ givenAgain)).catalog
    expandAll circularTree givenAgain = ["src/p/B.java", "src/p/C.java", "src/../src/A.java"] ∧
    (({} : Catalog).readPaths circularTree ["src"]).catalog.SameTypes c ∧
    c.beans.map (fun b => (b.qualifiedName, b.accessors.map Accessor.name)) =
      [("A", []), ("p.B", ["getX"]), ("p.C", ["getX"])] ∧
    c.ids.map c.superclassName? = [none, some "p.C", some "p.B"] := by
  have hapart : DeclareApart circularTree (expandAll circularTree ["src"]) := by decide +kernel
  have hamong : FilesAmong circularTree (expandAll circularTree givenAgain)
      (expandAll circularTree ["src"]) := by decide +kernel
  have hsame := (sameTypes_readPaths_append circularTree ["src"] givenAgain hapart hamong).1
  refine ⟨by decide +kernel, hsame, ?_⟩
  rw [← hsame.beans, ← hsame.superclassNames]
  decide +kernel

end Catalog
end Java
end BeanBuilder
