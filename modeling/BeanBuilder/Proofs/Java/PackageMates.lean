import BeanBuilder.Proofs.Java.Elements
import BeanBuilder.Proofs.Java.ListedClasses
import BeanBuilder.Proofs.Java.ReadingOrder

/-! # Superclasses of the own package

A class may name its superclass by a simple name that its imports say nothing about.  What the name
means then depends on the classes that are read: a class of that name in the unnamed package, else
the class of that name in the own package (`Catalog.parent?_readAll_of_extendsSimply`).

Classes of other packages do not count as long as the own package has the class, in whatever order
everything is read.  The unnamed package counts first, because the names of its classes are
qualified names as they stand.
-/
namespace BeanBuilder
namespace Java

/-! ## Classes in their files -/

/-- A class with the source file that it stands in. -/
structure FiledClass where
  file : SourceFile
  declared : ClassDeclaration

namespace FiledClass

/-- What the imports of the file make of unqualified names. -/
def scope (k : FiledClass) : Scope :=
  Scope.ofImports k.file.imports

/-- Whether the class stands in a package, or in none, and has a simple name. -/
def StandsIn (k : FiledClass) (package : Option String) (name : String) : Prop :=
  k.file.package = package ∧ k.declared.name = name

instance (k : FiledClass) (package : Option String) (name : String) :
    Decidable (k.StandsIn package name) :=
  inferInstanceAs (Decidable (_ ∧ _))

/-- The class as it is read. -/
def read (k : FiledClass) : ReadClass where
  declaration := k.declared.declaration k.scope k.file.package
  superclass := k.declared.superclassName? k.scope
  isUnlinked := rfl

end FiledClass

/-- The classes of a text with their file; a text that is no source file has none. -/
def filedClasses (source : String) : List FiledClass :=
  match SourceFile.parse source with
  | .ok u => u.classes.map fun d => ⟨u, d⟩
  | .error _ => []

theorem classesOf_eq (source : String) :
    classesOf source = (filedClasses source).map FiledClass.read := by
  rw [classesOf, filedClasses]
  cases SourceFile.parse source with
  | error e => rfl
  | ok u =>
    simp only [SourceFile.readClasses, List.map_map]
    rfl

theorem flatMap_classesOf_eq (sources : List String) :
    sources.flatMap classesOf = (sources.flatMap filedClasses).map FiledClass.read := by
  rw [List.map_flatMap]
  exact congrArg (sources.flatMap ·) (funext classesOf_eq)

/-- A class stands in a file that was read. -/
theorem exists_parse_of_mem_filedClasses {source : String} {k : FiledClass}
    (hk : k ∈ filedClasses source) :
    SourceFile.parse source = .ok k.file ∧ k.declared ∈ k.file.classes := by
  rw [filedClasses] at hk
  split at hk
  · rename_i u hu
    obtain ⟨d, hd, rfl⟩ := List.mem_map.mp hk
    exact ⟨hu, hd⟩
  · exact absurd hk List.not_mem_nil

/-! ## Simple names of superclasses -/

/-- A scope says nothing about a name: it is not imported, and none of the well-known types. -/
def Scope.IsSilentOn (s : Scope) (name : String) : Prop :=
  s.named.lookup name = none ∧
    (s.packages.contains Scope.utilityPackage && Scope.utilityTypes.contains name) = false

instance (s : Scope) (name : String) : Decidable (s.IsSilentOn name) :=
  inferInstanceAs (Decidable (_ ∧ _))

theorem Scope.IsSilentOn.resolve_eq {s : Scope} {name : String} (h : s.IsSilentOn name) :
    s.resolve name = name := by
  rw [Scope.resolve, h.1, h.2]
  simp

/-- The class names its superclass by a simple name, with or without type arguments, that its
imports say nothing about. -/
def FiledClass.ExtendsSimply (k : FiledClass) (name : String) : Prop :=
  (∃ arguments, k.declared.superclass = some (.named (.last name arguments) 0)) ∧
    k.scope.IsSilentOn name

/-- Whether a type is a simple name. -/
def JavaType.isSimply (name : String) : JavaType → Bool
  | .named (.last simple _) 0 => simple = name
  | _ => false

theorem JavaType.isSimply_iff {name : String} {type : JavaType} :
    type.isSimply name = true ↔ ∃ arguments, type = .named (.last name arguments) 0 := by
  constructor
  · intro h
    unfold isSimply at h
    split at h
    · rename_i arguments
      exact ⟨arguments, by rw [of_decide_eq_true h]⟩
    · cases h
  · rintro ⟨arguments, rfl⟩
    exact decide_eq_true rfl

instance (k : FiledClass) (name : String) : Decidable (k.ExtendsSimply name) :=
  have : Decidable (∃ arguments, k.declared.superclass = some (.named (.last name arguments) 0)) :=
    decidable_of_iff ((k.declared.superclass.any (JavaType.isSimply name)) = true) <| by
      cases k.declared.superclass with
      | none => simp
      | some type => simp [JavaType.isSimply_iff]
  inferInstanceAs (Decidable (_ ∧ _))

/-- Such a superclass is looked up by its simple name. -/
theorem FiledClass.ExtendsSimply.superclass_read {source name : String} {k : FiledClass}
    (h : k.ExtendsSimply name) (hk : k ∈ filedClasses source) :
    IsIdentifier name ∧ k.read.superclass = some name := by
  obtain ⟨hparse, hmem⟩ := exists_parse_of_mem_filedClasses hk
  have hfile := readable_of_parse hparse
  obtain ⟨⟨arguments, htype⟩, hsilent⟩ := h
  have hreadable := (hfile.classes k.declared hmem).superclass _ htype
  have hname : IsIdentifier name := hreadable.1
  have hr : Resolve.KeepsNames k.scope.resolve :=
    Scope.keepsNames_resolve (Scope.wellNamed_ofImports fun i hi => (hfile.imports i hi).isDotted)
  refine ⟨hname, ?_⟩
  have hraw := JavaType.raw_render hr (JavaType.Readable.wellNamed hreadable) rfl trivial
  simp only [read, ClassDeclaration.superclassName?, htype, Option.map_some, JavaType.renderIn,
    hraw]
  exact congrArg some hsilent.resolve_eq

/-! ## Names of the classes that are read -/

namespace Catalog

variable {ks : List ReadClass} {q : String} {i j : TypeId} {k : ReadClass}

theorem mem_keys_addAll (c : Catalog) (ks : List ReadClass) (q : String) :
    q ∈ (c.addAll ks).listed.keys ↔ q ∈ c.listed.keys ∨ ∃ k ∈ ks, k.qualifiedName = q := by
  induction ks generalizing c with
  | nil => simp [addAll]
  | cons k rest ih =>
    have hadd : q ∈ (c.add k.declaration k.superclass).listed.keys ↔
        q = k.qualifiedName ∨ q ∈ c.listed.keys := OrderedMap.mem_keys_insert
    rw [addAll_cons, ih, hadd, List.exists_mem_cons_iff]
    constructor
    · rintro ((rfl | hold) | hrest)
      · exact Or.inr (Or.inl rfl)
      · exact Or.inl hold
      · exact Or.inr (Or.inr hrest)
    · rintro (hold | rfl | hrest)
      · exact Or.inl (Or.inr hold)
      · exact Or.inl (Or.inl rfl)
      · exact Or.inr hrest

/-- A class is found under a name exactly if a class of that name was read. -/
theorem isSome_find?_addAll_iff :
    ((({} : Catalog).addAll ks).find? q).isSome ↔ ∃ k ∈ ks, k.qualifiedName = q := by
  rw [find?, OrderedMap.isSome_get?_iff, mem_keys_addAll]
  exact or_iff_right List.not_mem_nil

/-- What is found under a name has that name. -/
theorem map_qualifiedName_of_find? (hfind : (({} : Catalog).addAll ks).find? q = some j) :
    ((({} : Catalog).addAll ks).hierarchy.get? j).map TypeDeclaration.qualifiedName = some q := by
  obtain ⟨before, behind, hlisted, -⟩ := List.lookup_eq_some_iff.mp hfind
  have hmem : (q, j) ∈ (({} : Catalog).addAll ks).listed.toList := by
    rw [hlisted]
    simp
  exact (listsNames_empty.addAll ks).named (q, j) hmem

/-- The class that a simple name means for a class of a package that has a class of the name. -/
theorem parent?_link_addAll_of_find? {package name : String} (hpackage : package ≠ "")
    (hk : ks[i]? = some k) (hin : k.package = some package) (hname : k.superclass = some name)
    (hfind : (({} : Catalog).addAll ks).find? (package ++ "." ++ name) = some j) :
    (({} : Catalog).addAll ks).link.hierarchy.parent? i =
      (((({} : Catalog).addAll ks).find? name).or (some j)).filter (· ≠ i) := by
  have hget : ((({} : Catalog).addAll ks).hierarchy.get? i).bind TypeDeclaration.package =
      some package := by
    rw [get?_addAll, hk]
    exact hin
  have hfilter : (some package).filter (· ≠ "") = some package := by simp [hpackage]
  rw [parent?_link_addAll, hk, Option.bind_some, hname, Option.bind_some, superclass?, hget,
    lookup?, hfilter]
  simp only [Option.bind_some, hfind, Option.some_or]

end Catalog

/-! ## Packages -/

/-- A simple name is no name of a package. -/
theorem append_ne_of_isIdentifier {name : String} (hname : IsIdentifier name)
    (package simple : String) : package ++ "." ++ simple ≠ name := by
  intro heq
  apply hname.isWord.no_dot
  simp [← heq]

/-- A class of a package has the qualified name that the package gives to its simple name. -/
theorem FiledClass.StandsIn.qualifiedName_read {k : FiledClass} {package name : String}
    (h : k.StandsIn (some package) name) (hpackage : package ≠ "") :
    k.read.qualifiedName = package ++ "." ++ name := by
  have hqualified : k.read.qualifiedName = qualify k.file.package k.declared.name := rfl
  rw [hqualified, h.1, h.2, qualify, if_neg hpackage]

/-- A class whose qualified name is an identifier stands in no package. -/
theorem FiledClass.qualifiedName_read_eq_iff {source name : String} {k : FiledClass}
    (hk : k ∈ filedClasses source) (hname : IsIdentifier name) :
    k.read.qualifiedName = name ↔ k.StandsIn none name := by
  have hqualified : k.read.qualifiedName = qualify k.file.package k.declared.name := rfl
  rw [hqualified, StandsIn]
  cases hpackage : k.file.package with
  | none => simp [qualify]
  | some package =>
    have hread := readable_of_parse (exists_parse_of_mem_filedClasses hk).1
    have hpath := hread.package package hpackage
    rw [qualify, if_neg hpath.ne_empty]
    simpa using append_ne_of_isIdentifier hname package k.declared.name

namespace Catalog

/-! ## Everything that is read -/

variable {sources : List String} {package name : String} {k : FiledClass} {top mate : TypeId}

/-- The classes of some texts before their superclasses are looked up. -/
def gathered (sources : List String) : Catalog :=
  ({} : Catalog).addAll ((sources.flatMap filedClasses).map FiledClass.read)

theorem readAll_eq_link_gathered (sources : List String) :
    readAll sources = (gathered sources).link := by
  rw [readAll_eq, flatMap_classesOf_eq, gathered]

theorem find?_readAll (sources : List String) (q : String) :
    (readAll sources).find? q = (gathered sources).find? q := by
  rw [readAll_eq_link_gathered, find?, (sameClasses_link _).listed, find?]

/-- A class that stands in a package is found under its qualified name. -/
theorem exists_find?_gathered (hne : package ≠ "")
    (hmate : ∃ e ∈ sources.flatMap filedClasses, e.StandsIn (some package) name) :
    ∃ mate, (gathered sources).find? (package ++ "." ++ name) = some mate := by
  obtain ⟨e, he, hstands⟩ := hmate
  refine Option.isSome_iff_exists.mp (isSome_find?_addAll_iff.mpr ⟨e.read, ?_, ?_⟩)
  · exact List.mem_map_of_mem he
  · exact hstands.qualifiedName_read hne

/-- Under a simple name only a class of the unnamed package is found. -/
theorem isSome_find?_gathered_iff (hname : IsIdentifier name) :
    ((gathered sources).find? name).isSome ↔
      ∃ e ∈ sources.flatMap filedClasses, e.StandsIn none name := by
  rw [gathered, isSome_find?_addAll_iff]
  simp only [List.mem_map, exists_exists_and_eq_and]
  refine exists_congr fun e => and_congr_right fun he => ?_
  obtain ⟨source, -, hfiled⟩ := List.mem_flatMap.mp he
  exact FiledClass.qualifiedName_read_eq_iff hfiled hname

/-- It is not the class of a package that has the name too. -/
theorem ne_of_find?_gathered (hname : IsIdentifier name)
    (htop : (gathered sources).find? name = some top)
    (hmate : (gathered sources).find? (package ++ "." ++ name) = some mate) : top ≠ mate := by
  rintro rfl
  have hqualified := map_qualifiedName_of_find? htop
  rw [map_qualifiedName_of_find? hmate] at hqualified
  exact append_ne_of_isIdentifier hname package name (Option.some.inj hqualified)

/-- Nor is it any class that stands in a package. -/
theorem ne_of_find?_gathered_of_getElem? (hname : IsIdentifier name) (hne : package ≠ "")
    (hk : (sources.flatMap filedClasses)[i]? = some k) (hpackage : k.file.package = some package)
    (htop : (gathered sources).find? name = some top) : top ≠ i := by
  rintro rfl
  have hstands : k.StandsIn (some package) k.declared.name := ⟨hpackage, rfl⟩
  have hqualified := map_qualifiedName_of_find? htop
  rw [get?_addAll, List.getElem?_map, hk] at hqualified
  exact append_ne_of_isIdentifier hname package k.declared.name
    ((hstands.qualifiedName_read hne).symm.trans (Option.some.inj hqualified))

/-- What a simple name means for a class of a package that has a class of the name. -/
theorem parent?_readAll_of_find? (hne : package ≠ "")
    (hk : (sources.flatMap filedClasses)[i]? = some k) (hpackage : k.file.package = some package)
    (hname : k.read.superclass = some name)
    (hmate : (gathered sources).find? (package ++ "." ++ name) = some mate) :
    (readAll sources).hierarchy.parent? i =
      (((gathered sources).find? name).or (some mate)).filter (· ≠ i) := by
  have hread : ((sources.flatMap filedClasses).map FiledClass.read)[i]? = some k.read := by
    rw [List.getElem?_map, hk, Option.map_some]
  rw [readAll_eq_link_gathered]
  exact parent?_link_addAll_of_find? hne hread hpackage hname hmate

/-- **What a class of a package extends**, if it names its superclass by a simple name that its
imports say nothing about, and a class of that name was read in its package.  It gets that class, in
whatever order the texts are read and whatever classes of the name other packages have, exactly if
no class of the unnamed package has the name; otherwise it gets the class of the unnamed package. -/
theorem parent?_readAll_of_extendsSimply {sources : List String} {i : TypeId} {k : FiledClass}
    {package name : String} (hk : (sources.flatMap filedClasses)[i]? = some k)
    (hpackage : k.file.package = some package) (hextends : k.ExtendsSimply name)
    (hmate : ∃ e ∈ sources.flatMap filedClasses, e.StandsIn (some package) name) :
    ∃ mate, (readAll sources).find? (package ++ "." ++ name) = some mate ∧
      (mate ≠ i → ((readAll sources).hierarchy.parent? i = some mate ↔
        ¬∃ e ∈ sources.flatMap filedClasses, e.StandsIn none name)) ∧
      ((∃ e ∈ sources.flatMap filedClasses, e.StandsIn none name) →
        ∃ top, (readAll sources).find? name = some top ∧
          (readAll sources).hierarchy.parent? i = some top) := by
  obtain ⟨source, -, hfiled⟩ := List.mem_flatMap.mp (List.mem_of_getElem? hk)
  obtain ⟨hname, hsuperclass⟩ := hextends.superclass_read hfiled
  have hparse := (exists_parse_of_mem_filedClasses hfiled).1
  have hne : package ≠ "" := ((readable_of_parse hparse).package package hpackage).ne_empty
  obtain ⟨mate, hfind⟩ := exists_find?_gathered hne hmate
  have hparent := parent?_readAll_of_find? hne hk hpackage hsuperclass hfind
  rw [find?_readAll, find?_readAll, ← isSome_find?_gathered_iff hname, hparent]
  refine ⟨mate, hfind, ?_⟩
  -- the unnamed package has a class of the name or not
  cases htop : (gathered sources).find? name with
  | none => simp [Option.filter]
  | some top =>
    have hown := ne_of_find?_gathered_of_getElem? hname hne hk hpackage htop
    have hother := ne_of_find?_gathered hname htop hfind
    rw [Option.some_or, Option.filter_some_pos (by simpa using hown)]
    simp [hother]

/-- A class, and two classes with the simple name of its superclass; the one of its own package is
read last. -/
def mateFiles : List String :=
  ["package q; class S { }", "package p; import java.util.*; class C extends S<String> { }",
    "package p; class S<T> { }"]

theorem parent?_readAll_of_extendsSimply_mateFiles :
    ∃ k, (mateFiles.flatMap filedClasses)[1]? = some k ∧ k.file.package = some "p" ∧
      k.ExtendsSimply "S" ∧ (∃ e ∈ mateFiles.flatMap filedClasses, e.StandsIn (some "p") "S") ∧
      (readAll mateFiles).find? "p.S" = some 2 ∧
      (readAll mateFiles).hierarchy.parent? 1 = some 2 := by
  have hclass : (mateFiles.flatMap filedClasses)[1]?.any
      (fun k => decide (k.file.package = some "p" ∧ k.ExtendsSimply "S")) = true := by
    decide +kernel
  have hmate : ∃ e ∈ mateFiles.flatMap filedClasses, e.StandsIn (some "p") "S" := by
    decide +kernel
  have hnone : ¬∃ e ∈ mateFiles.flatMap filedClasses, e.StandsIn none "S" := by decide +kernel
  have hplace : (readAll mateFiles).find? "p.S" = some 2 := by decide +kernel
  cases hk : (mateFiles.flatMap filedClasses)[1]? with
  | none =>
    rw [hk] at hclass
    cases hclass
  | some k =>
    rw [hk, Option.any_some, decide_eq_true_iff] at hclass
    obtain ⟨hpackage, hextends⟩ := hclass
    obtain ⟨mate, hfind, hparent, -⟩ :=
      parent?_readAll_of_extendsSimply hk hpackage hextends hmate
    obtain rfl : mate = 2 := Option.some.inj (hfind.symm.trans hplace)
    exact ⟨k, rfl, hpackage, hextends, hmate, hplace, (hparent (by decide)).mpr hnone⟩

/-- A class of the unnamed package is taken for the superclass, although the own package has a class
of the name. -/
theorem unnamed_package_comes_first :
    let sources := ["class S { }", "package p; class S { int getX() { return 1; } }",
      "package p; class C extends S { }"]
    (readAll sources).find? "p.S" = some 1 ∧ (readAll sources).find? "p.C" = some 2 ∧
      (readAll sources).hierarchy.parent? 2 = some 0 ∧
      (readAll sources).hierarchy.accessors 2 = [] := by
  decide +kernel

end Catalog
end Java
end BeanBuilder
