import BeanBuilder.Java.Catalog
import BeanBuilder.Proofs.Lineage

/-! # Catalogs of classes that are read

A text adds its classes behind the others, and those that name a superclass wait for it
(`addAll`).  A link gives every class that waits what the name of its superclass means in the
catalog, and from then on no class waits (`parent?_link`).

Nothing but superclasses changes by that (`sameClasses_link`), and no superclass is asked for when
a name is looked up.  So a name means in a catalog what it would mean if nothing had been linked
(`SameClasses.lookup?_eq`).
-/
namespace BeanBuilder
namespace Java

/-- What is read of a class: its declaration, and the name of its superclass. -/
structure ReadClass where
  declaration : TypeDeclaration
  superclass : Option String
  isUnlinked : declaration.superclass = none

namespace ReadClass

/-- The name of the class with its package. -/
def qualifiedName (k : ReadClass) : String :=
  k.declaration.qualifiedName

end ReadClass

/-- The classes of a source file as they are read. -/
def SourceFile.readClasses (u : SourceFile) : List ReadClass :=
  u.classes.map fun d =>
    ⟨d.declaration (Scope.ofImports u.imports) u.package,
      d.superclassName? (Scope.ofImports u.imports), rfl⟩

/-- The classes of a text; a text that is no source file has none. -/
def classesOf (source : String) : List ReadClass :=
  match SourceFile.parse source with
  | .ok u => u.readClasses
  | .error _ => []

namespace Catalog

variable {c c' : Catalog} {i id parent : Nat} {name : String} {k : ReadClass}
  {entries : List (TypeId × String)}

/-! ## Requests -/

/-- What a reader of sources is asked to do. -/
inductive Request where
  | parse (source : String)
  | link
  deriving DecidableEq, Repr

/-- The catalog behind a request.  A text that is no source file changes nothing. -/
def after (c : Catalog) : Request → Catalog
  | .parse source =>
    match c.parse source with
    | .ok (_, c') => c'
    | .error _ => c
  | .link => c.link

/-- The catalog behind requests, one after another. -/
def afterAll (c : Catalog) (requests : List Request) : Catalog :=
  requests.foldl after c

/-- The catalog with some more classes. -/
def addAll (c : Catalog) (ks : List ReadClass) : Catalog :=
  ks.foldl (fun c k => c.add k.declaration k.superclass) c

/-- The classes that a request reads. -/
def Request.classes : Request → List ReadClass
  | .parse source => classesOf source
  | .link => []

theorem addFile_eq_addAll (c : Catalog) (u : SourceFile) :
    (c.addFile u).2 = c.addAll u.readClasses := by
  rw [addFile, addAll, SourceFile.readClasses, List.foldl_map]

theorem after_parse (c : Catalog) (source : String) :
    c.after (.parse source) = c.addAll (classesOf source) := by
  rw [after, parse, classesOf]
  cases SourceFile.parse source with
  | error e => rfl
  | ok u => exact addFile_eq_addAll c u

theorem addAll_append (c : Catalog) (ks more : List ReadClass) :
    c.addAll (ks ++ more) = (c.addAll ks).addAll more := by
  rw [addAll, List.foldl_append]
  rfl

theorem addAll_cons (c : Catalog) (k : ReadClass) (ks : List ReadClass) :
    c.addAll (k :: ks) = (c.add k.declaration k.superclass).addAll ks := rfl

theorem afterAll_concat (c : Catalog) (requests : List Request) (r : Request) :
    c.afterAll (requests ++ [r]) = (c.afterAll requests).after r := by
  rw [afterAll, List.foldl_concat]
  rfl

/-! ## What a name means -/

/-- Two catalogs hold the same classes, apart from the superclasses that these have. -/
structure SameClasses (c c' : Catalog) : Prop where
  listed : c.listed = c'.listed
  stored : c.stored.map TypeDeclaration.unlinked = c'.stored.map TypeDeclaration.unlinked

theorem SameClasses.refl (c : Catalog) : c.SameClasses c :=
  ⟨rfl, rfl⟩

theorem SameClasses.symm (h : c.SameClasses c') : c'.SameClasses c :=
  ⟨h.listed.symm, h.stored.symm⟩

theorem SameClasses.trans {c'' : Catalog} (h : c.SameClasses c') (h' : c'.SameClasses c'') :
    c.SameClasses c'' :=
  ⟨h.listed.trans h'.listed, h.stored.trans h'.stored⟩

theorem SameClasses.length_stored (h : c.SameClasses c') : c.stored.length = c'.stored.length := by
  simpa using congrArg List.length h.stored

theorem SameClasses.get? (h : c.SameClasses c') (id : TypeId) :
    (c.hierarchy.get? id).map TypeDeclaration.unlinked =
      (c'.hierarchy.get? id).map TypeDeclaration.unlinked := by
  have hat := congrArg (fun ds : List TypeDeclaration => ds[id]?) h.stored
  rwa [List.getElem?_map, List.getElem?_map] at hat

/-- What does not depend on superclasses is the same of both catalogs. -/
theorem SameClasses.map_get? {α : Type} (h : c.SameClasses c') (id : TypeId)
    (f : TypeDeclaration → α) (hf : ∀ d, f d.unlinked = f d) :
    (c.hierarchy.get? id).map f = (c'.hierarchy.get? id).map f := by
  have hcomp : f ∘ TypeDeclaration.unlinked = f := funext hf
  have hat := congrArg (Option.map f) (h.get? id)
  rwa [Option.map_map, Option.map_map, hcomp] at hat

theorem SameClasses.findSimple?_eq (h : c.SameClasses c') (name : String) :
    c.findSimple? name = c'.findSimple? name := by
  have hpred : (fun id => (c.hierarchy.get? id).any fun d => d.simpleName = name) =
      fun id => (c'.hierarchy.get? id).any fun d => d.simpleName = name := by
    funext id
    have hat := h.map_get? id TypeDeclaration.simpleName fun _ => rfl
    have hany : ∀ o : Option TypeDeclaration, (o.any fun d => d.simpleName = name) =
        (o.map TypeDeclaration.simpleName).any fun n => n = name := by
      intro o
      cases o <;> rfl
    rw [hany, hany, hat]
  rw [findSimple?, findSimple?, ids, ids, h.listed, hpred]

/-- **A name means the same class** in catalogs that differ in superclasses only. -/
theorem SameClasses.lookup?_eq (h : c.SameClasses c') (name : String) (package : Option String) :
    c.lookup? name package = c'.lookup? name package := by
  simp only [lookup?, find?, h.listed, h.findSimple?_eq]

theorem SameClasses.superclass?_eq (h : c.SameClasses c') (id : TypeId) (name : String) :
    c.superclass? id name = c'.superclass? id name := by
  have hpackage : (c.hierarchy.get? id).bind TypeDeclaration.package =
      (c'.hierarchy.get? id).bind TypeDeclaration.package := by
    have hjoin : ∀ o : Option TypeDeclaration,
        o.bind TypeDeclaration.package = (o.map TypeDeclaration.package).join := by
      intro o
      cases o <;> rfl
    rw [hjoin, hjoin, h.map_get? id TypeDeclaration.package fun _ => rfl]
  rw [superclass?, superclass?, hpackage, h.lookup?_eq]

/-- A name means a class that is listed. -/
theorem mem_ids_of_lookup? {package : Option String} (h : c.lookup? name package = some id) :
    id ∈ c.ids := by
  have hfind : ∀ {q}, c.find? q = some id → id ∈ c.ids := by
    intro q hq
    obtain ⟨before, behind, hlisted, -⟩ := List.lookup_eq_some_iff.mp hq
    rw [ids, OrderedMap.values, hlisted]
    simp
  rcases Option.or_eq_some_iff.mp h with hname | ⟨-, hrest⟩
  · exact hfind hname
  · rcases Option.or_eq_some_iff.mp hrest with hpackage | ⟨-, hsimple⟩
    · obtain ⟨p, -, hp⟩ := Option.bind_eq_some_iff.mp hpackage
      exact hfind hp
    · exact List.mem_of_find?_eq_some hsimple

theorem mem_ids_of_superclass? (h : c.superclass? id name = some parent) : parent ∈ c.ids :=
  mem_ids_of_lookup? (Option.filter_eq_some_iff.mp h).1

/-! ## One link -/

theorem sameClasses_setSuperclass (c : Catalog) (id parent : TypeId) :
    (c.setSuperclass id parent).SameClasses c := by
  refine ⟨rfl, List.ext_getElem? fun i => ?_⟩
  simp only [setSuperclass, List.getElem?_map, List.getElem?_modify]
  cases c.stored[i]? with
  | none => rfl
  | some d =>
    rw [Option.map_eq_map, Option.map_some, Option.map_some, Option.map_some]
    split <;> rfl

theorem sameClasses_linkOne (c : Catalog) (id : TypeId) (name : String) :
    (c.linkOne id name).SameClasses c := by
  rw [linkOne]
  split
  · exact sameClasses_setSuperclass c id _
  · exact .refl c

/-- The catalog in which some classes are linked, one after another. -/
def linkEach (c : Catalog) (entries : List (TypeId × String)) : Catalog :=
  entries.foldl (fun c (id, name) => c.linkOne id name) c

theorem linkEach_cons (c : Catalog) (e : TypeId × String) (entries : List (TypeId × String)) :
    c.linkEach (e :: entries) = (c.linkOne e.1 e.2).linkEach entries := rfl

theorem sameClasses_linkEach (c : Catalog) (entries : List (TypeId × String)) :
    (c.linkEach entries).SameClasses c := by
  induction entries generalizing c with
  | nil => exact .refl c
  | cons e rest ih => exact (ih _).trans (sameClasses_linkOne c e.1 e.2)

/-- **A link changes nothing but superclasses.** -/
theorem sameClasses_link (c : Catalog) : c.link.SameClasses c :=
  ⟨(sameClasses_linkEach c c.pending).listed, (sameClasses_linkEach c c.pending).stored⟩

theorem parent?_setSuperclass (hid : id < c.stored.length) (i : Nat) :
    (c.setSuperclass id parent).hierarchy.parent? i =
      if i = id then some parent else c.hierarchy.parent? i := by
  simp only [Hierarchy.parent?, Hierarchy.get?, hierarchy, setSuperclass, List.getElem?_modify]
  by_cases hi : i = id
  · subst hi
    rw [if_pos rfl, List.getElem?_eq_getElem hid]
    simp
  · rw [if_neg hi]
    simp [Ne.symm hi]

theorem parent?_linkOne (hid : id < c.stored.length) (i : Nat) :
    (c.linkOne id name).hierarchy.parent? i =
      if i = id then (c.superclass? id name).or (c.hierarchy.parent? i)
      else c.hierarchy.parent? i := by
  rw [linkOne]
  cases hs : c.superclass? id name with
  | none => simp
  | some parent => simp [parent?_setSuperclass hid]

theorem lookup_eq_none (h : i ∉ entries.map Prod.fst) : entries.lookup i = none := by
  refine List.lookup_eq_none_iff.mpr fun e he => bne_iff_ne.mpr fun heq => h ?_
  exact List.mem_map.mpr ⟨e, he, heq.symm⟩

/-- Each of some different classes is linked to what it names in the catalog at the start. -/
theorem parent?_linkEach (hnodup : (entries.map Prod.fst).Nodup)
    (hplaces : ∀ i : Nat, i ∈ entries.map Prod.fst → i < c.stored.length) (i : Nat) :
    (c.linkEach entries).hierarchy.parent? i =
      ((entries.lookup i).bind (c.superclass? i)).or (c.hierarchy.parent? i) := by
  induction entries generalizing c with
  | nil => rfl
  | cons e rest ih =>
    obtain ⟨id, name⟩ := e
    rw [List.map_cons, List.nodup_cons] at hnodup
    have hid := hplaces id List.mem_cons_self
    have hsame := sameClasses_linkOne c id name
    have hrest : ∀ i : Nat, i ∈ rest.map Prod.fst → i < (c.linkOne id name).stored.length := by
      intro i hi
      rw [hsame.length_stored]
      exact hplaces i (List.mem_cons_of_mem _ hi)
    have hmeans : (c.linkOne id name).superclass? i = c.superclass? i :=
      funext (hsame.superclass?_eq i)
    rw [linkEach_cons, ih hnodup.2 hrest, hmeans, parent?_linkOne hid, List.lookup_cons]
    by_cases hi : i = id
    · -- the class is linked now, and not again
      subst hi
      have hnone := lookup_eq_none hnodup.1
      simp [hnone]
    · rw [if_neg hi, beq_eq_false_iff_ne.mpr hi]

/-! ## Classes that wait -/

/-- The classes that wait for their superclasses are different ones of those in store. -/
structure WellFormed (c : Catalog) : Prop where
  nodup : (c.pending.map Prod.fst).Nodup
  lt_length : ∀ i : Nat, i ∈ c.pending.map Prod.fst → i < c.stored.length

theorem wellFormed_empty : ({} : Catalog).WellFormed :=
  ⟨List.nodup_nil, fun _ h => absurd h List.not_mem_nil⟩

/-- **A link** gives a class what the name that it waits for means. -/
theorem parent?_link (h : c.WellFormed) (i : Nat) :
    c.link.hierarchy.parent? i =
      ((c.pending.lookup i).bind (c.superclass? i)).or (c.hierarchy.parent? i) :=
  parent?_linkEach h.nodup h.lt_length i

theorem WellFormed.link (_ : c.WellFormed) : c.link.WellFormed :=
  ⟨List.nodup_nil, fun _ h => absurd h List.not_mem_nil⟩

theorem WellFormed.lookup_pending_of_le (h : c.WellFormed) (hi : c.stored.length ≤ i) :
    c.pending.lookup i = none := by
  refine lookup_eq_none fun hmem => ?_
  have hlt := h.lt_length i hmem
  omega

theorem places_pending_add (c : Catalog) (d : TypeDeclaration) (superclass : Option String) :
    (c.add d superclass).pending.map Prod.fst =
      c.pending.map Prod.fst ++ (superclass.map fun _ => c.stored.length).toList := by
  cases superclass <;> simp [Catalog.add]

theorem WellFormed.add (h : c.WellFormed) (d : TypeDeclaration) (superclass : Option String) :
    (c.add d superclass).WellFormed := by
  -- the place of the class is behind all others
  have hnew : ∀ i : Nat, i ∈ (superclass.map fun _ => c.stored.length).toList →
      i = c.stored.length := by
    intro i hi
    cases superclass with
    | none => exact absurd hi List.not_mem_nil
    | some name => exact List.mem_singleton.mp hi
  constructor
  · rw [places_pending_add]
    refine List.nodup_append.mpr ⟨h.nodup, by cases superclass <;> simp, ?_⟩
    rintro i hi j hj rfl
    have hlt := h.lt_length i hi
    have heq := hnew i hj
    omega
  · intro i hi
    simp only [Catalog.add, List.length_append, List.length_singleton]
    rw [places_pending_add] at hi
    rcases List.mem_append.mp hi with hold | hlast
    · have hlt := h.lt_length i hold
      omega
    · have heq := hnew i hlast
      omega

theorem WellFormed.addAll (h : c.WellFormed) (ks : List ReadClass) : (c.addAll ks).WellFormed := by
  induction ks generalizing c with
  | nil => exact h
  | cons k rest ih => exact ih (h.add _ _)

theorem WellFormed.after (h : c.WellFormed) (r : Request) : (c.after r).WellFormed := by
  cases r with
  | parse source => exact c.after_parse source ▸ h.addAll _
  | link => exact h.link

theorem wellFormed_afterAll (requests : List Request) :
    (({} : Catalog).afterAll requests).WellFormed := by
  induction requests using List.reverseRecOn with
  | nil => exact wellFormed_empty
  | append_singleton requests r ih => exact afterAll_concat {} requests r ▸ ih.after r

/-! ## Classes that are read -/

theorem length_stored_addAll (c : Catalog) (ks : List ReadClass) :
    (c.addAll ks).stored.length = c.stored.length + ks.length := by
  induction ks generalizing c with
  | nil => rfl
  | cons k rest ih =>
    rw [addAll_cons, ih, List.length_cons]
    simp only [Catalog.add, List.length_append, List.length_singleton]
    omega

theorem parent?_add (c : Catalog) (k : ReadClass) (i : Nat) :
    (c.add k.declaration k.superclass).hierarchy.parent? i = c.hierarchy.parent? i := by
  simp only [Hierarchy.parent?, Hierarchy.get?, hierarchy, Catalog.add]
  rcases Nat.lt_trichotomy i c.stored.length with hlt | heq | hgt
  · rw [List.getElem?_append_left hlt]
  · subst heq
    simp [k.isUnlinked]
  · rw [List.getElem?_eq_none (by simp; omega), List.getElem?_eq_none (by omega)]

/-- A class that is read has no superclass yet, and takes none away. -/
theorem parent?_addAll (c : Catalog) (ks : List ReadClass) (i : Nat) :
    (c.addAll ks).hierarchy.parent? i = c.hierarchy.parent? i := by
  induction ks generalizing c with
  | nil => rfl
  | cons k rest ih => rw [addAll_cons, ih, parent?_add]

theorem WellFormed.lookup_pending_add (h : c.WellFormed) (d : TypeDeclaration)
    (superclass : Option String) (i : Nat) :
    (c.add d superclass).pending.lookup i =
      if i = c.stored.length then superclass else c.pending.lookup i := by
  have hnew := h.lookup_pending_of_le (le_refl c.stored.length)
  rw [Catalog.add, List.lookup_append]
  by_cases hi : i = c.stored.length
  · subst hi
    rw [hnew, if_pos rfl, Option.none_or]
    cases superclass <;> simp
  · rw [if_neg hi]
    cases superclass <;> simp [List.lookup_cons, beq_eq_false_iff_ne.mpr hi]

/-- A class that is read waits for the superclass that it names. -/
theorem WellFormed.lookup_pending_addAll (h : c.WellFormed) (ks : List ReadClass) (i : Nat) :
    (c.addAll ks).pending.lookup i =
      if i < c.stored.length then c.pending.lookup i
      else ks[i - c.stored.length]?.bind ReadClass.superclass := by
  induction ks generalizing c with
  | nil =>
    split
    · rfl
    · rename_i hi
      exact h.lookup_pending_of_le (Nat.le_of_not_lt hi)
  | cons k rest ih =>
    rw [addAll_cons, ih (h.add _ _), h.lookup_pending_add]
    have hlength : (c.add k.declaration k.superclass).stored.length = c.stored.length + 1 := by
      simp [Catalog.add]
    rw [hlength]
    rcases Nat.lt_trichotomy i c.stored.length with hlt | heq | hgt
    · rw [if_pos (by omega), if_neg (by omega), if_pos hlt]
    · subst heq
      simp
    · rw [if_neg (by omega), if_neg (by omega)]
      obtain ⟨j, rfl⟩ := Nat.exists_eq_add_of_lt hgt
      have hj : c.stored.length + j + 1 - c.stored.length = j + 1 := by omega
      have hj' : c.stored.length + j + 1 - (c.stored.length + 1) = j := by omega
      rw [hj, hj', List.getElem?_cons_succ]

theorem SameClasses.add (h : c.SameClasses c') (d : TypeDeclaration)
    (superclass superclass' : Option String) :
    (c.add d superclass).SameClasses (c'.add d superclass') := by
  constructor
  · simp only [Catalog.add, h.listed, h.length_stored]
  · simp only [Catalog.add, List.map_append, h.stored]

theorem SameClasses.addAll (h : c.SameClasses c') (ks : List ReadClass) :
    (c.addAll ks).SameClasses (c'.addAll ks) := by
  induction ks generalizing c c' with
  | nil => exact h
  | cons k rest ih => exact ih (h.add _ _ _)

theorem lookup_pending_addAll_empty (ks : List ReadClass) (i : Nat) :
    (({} : Catalog).addAll ks).pending.lookup i = ks[i]?.bind ReadClass.superclass :=
  wellFormed_empty.lookup_pending_addAll ks i

/-- A single link of all that was read gives every class what the name of its superclass means. -/
theorem parent?_link_addAll (ks : List ReadClass) (i : Nat) :
    (({} : Catalog).addAll ks).link.hierarchy.parent? i =
      (ks[i]?.bind ReadClass.superclass).bind ((({} : Catalog).addAll ks).superclass? i) := by
  rw [parent?_link (wellFormed_empty.addAll ks), lookup_pending_addAll_empty, parent?_addAll]
  exact Option.or_none

end Catalog
end Java
end BeanBuilder
