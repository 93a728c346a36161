import BeanBuilder.Java.Sources
import BeanBuilder.Proofs.Hierarchy
import BeanBuilder.Proofs.Java.ReadDeclarations
import BeanBuilder.Proofs.Java.Statements

/-! # Beans that are read

Where names are resolved, a readable type is written as the text of another readable type
(`JavaType.exists_render`): a path stands where its name stood.  So every type of a declaration that
is read in its scope is a type text (`IsTypeText`), and every bean of a catalog of sources has names
and types that could be written again (`isReadBean_of_mem_beans`).
-/
namespace BeanBuilder
namespace Java

/-- The text of a readable type. -/
def IsTypeText (text : String) : Prop :=
  ∃ type : JavaType, type.Readable ∧ type.render id = text

/-! ## Paths -/

section Paths

variable {name : String} {more : List String}

theorem joinStrings_concat (name : String) (more : List String) (last : String) :
    Text.joinStrings "." (name :: (more ++ [last])) =
      Text.joinStrings "." (name :: more) ++ "." ++ last := by
  induction more generalizing name with
  | nil => rfl
  | cons next more ih =>
    change name ++ "." ++ Text.joinStrings "." (next :: (more ++ [last])) =
      name ++ "." ++ Text.joinStrings "." (next :: more) ++ "." ++ last
    rw [ih]
    simp only [String.append_assoc]

theorem joinStrings_ne_empty (hname : IsIdentifier name) (more : List String) :
    Text.joinStrings "." (name :: more) ≠ "" := by
  have hne : name ≠ "" := by
    rintro rfl
    exact absurd hname.1 (by decide)
  cases more with
  | nil => exact hne
  | cons next more =>
    change name ++ "." ++ _ ≠ ""
    simp [hne]

theorem IsIdentifier.isPath (hname : IsIdentifier name) : IsPath name :=
  ⟨name, [], hname, by simp, rfl⟩

/-- A path goes on with an identifier. -/
theorem IsPath.append {path : String} (h : IsPath path) (hname : IsIdentifier name) :
    IsPath (path ++ "." ++ name) := by
  obtain ⟨first, more, hfirst, hmore, rfl⟩ := h
  refine ⟨first, more ++ [name], hfirst, ?_, (joinStrings_concat first more name).symm⟩
  intro m hm
  rcases List.mem_append.mp hm with h | h
  · exact hmore m h
  · exact List.mem_singleton.mp h ▸ hname

theorem IsPath.ne_empty {path : String} (h : IsPath path) : path ≠ "" := by
  obtain ⟨first, more, hfirst, -, rfl⟩ := h
  exact joinStrings_ne_empty hfirst more

/-- A class in a package has a path as its name. -/
theorem isPath_qualify {package : Option String} (hpackage : ∀ p ∈ package, IsPath p)
    (hname : IsIdentifier name) : IsPath (qualify package name) := by
  cases package with
  | none => exact hname.isPath
  | some p =>
    have hp := hpackage p rfl
    rw [qualify, if_neg hp.ne_empty]
    exact hp.append hname

/-- A path is the text of the type that it names. -/
theorem IsPath.isTypeText {path : String} (h : IsPath path) : IsTypeText path := by
  obtain ⟨first, more, hfirst, hmore, rfl⟩ := h
  refine ⟨.named (.ofNames first more) 0, TypePath.readable_ofNames hfirst hmore, ?_⟩
  rw [JavaType.render, TypePath.render_ofNames]
  exact String.append_empty

end Paths

/-! ## Types with their names resolved -/

/-- A way of resolving names that makes paths of identifiers. -/
def Resolve.KeepsPaths (resolve : Resolve) : Prop :=
  ∀ name, IsIdentifier name → IsPath (resolve name)

theorem keepsPaths_id : Resolve.KeepsPaths id :=
  fun _ hname => hname.isPath

/-- **A scope makes paths of identifiers**, if all that it imports are paths. -/
theorem keepsPaths_ofImports {imports : List Import} (h : ∀ i ∈ imports, IsPath i.path) :
    Resolve.KeepsPaths (Scope.ofImports imports).resolve := by
  intro name hname
  unfold Scope.resolve
  split
  · exact hname.isPath
  · split
    · rename_i path hlookup
      obtain ⟨before, behind, hnamed, -⟩ := List.lookup_eq_some_iff.mp hlookup
      have hmem : (name, path) ∈ (Scope.ofImports imports).named := by
        rw [hnamed]
        simp
      simp only [Scope.ofImports, List.mem_reverse, List.mem_map, List.mem_filter] at hmem
      obtain ⟨i, ⟨⟨hi, -⟩, -⟩, heq⟩ := hmem
      obtain ⟨-, rfl⟩ := Prod.mk.inj heq
      exact h i hi
    · split
      · have hutility : IsPath Scope.utilityPackage :=
          ⟨"java", ["util"], by decide, by decide, rfl⟩
        exact hutility.append hname
      · exact hname.isPath

/-- The path of some names with arguments behind the last one. -/
def TypePath.ofNamesWith (as : List TypeArgument) : String → List String → TypePath
  | name, [] => .last name as
  | name, next :: more => .outer name [] (ofNamesWith as next more)

section OfNames

variable {as : List TypeArgument} {name : String} {more : List String}

theorem TypePath.readable_ofNamesWith (has : ArgumentsReadable as) (hname : IsIdentifier name)
    (hmore : ∀ m ∈ more, IsIdentifier m) : (ofNamesWith as name more).Readable := by
  induction more generalizing name with
  | nil => exact ⟨hname, has⟩
  | cons next more ih =>
    rw [List.forall_mem_cons] at hmore
    exact ⟨hname, trivial, ih hmore.1 hmore.2⟩

theorem TypePath.render_ofNamesWith (as : List TypeArgument) (name : String)
    (more : List String) : (ofNamesWith as name more).render id id =
      Text.joinStrings "." (name :: more) ++ argumentsText id as := by
  induction more generalizing name with
  | nil => rfl
  | cons next more ih =>
    have hjoin : Text.joinStrings "." (name :: next :: more) =
        name ++ "." ++ Text.joinStrings "." (next :: more) := rfl
    rw [ofNamesWith, render, argumentsText, ih, hjoin, String.append_empty]
    simp only [String.append_assoc]

end OfNames

section Resolved

variable {resolve : Resolve}

mutual

/-- A readable type with its names resolved is written as another readable type, which values refer
to if they refer to the first one. -/
theorem JavaType.exists_render (hr : resolve.KeepsPaths) : ∀ (type : JavaType), type.Readable →
    ∃ type' : JavaType, type'.Readable ∧ (type.IsReference → type'.IsReference) ∧
      type'.render id = type.render resolve
  | .basic name dimensions, h => ⟨.basic name dimensions, h, id, rfl⟩
  | .named path dimensions, h => by
    obtain ⟨path', hpath', htext⟩ := path.exists_render hr hr h
    refine ⟨.named path' dimensions, hpath', id, ?_⟩
    rw [JavaType.render, JavaType.render, htext]

theorem TypePath.exists_render (hr : resolve.KeepsPaths) {resolveHead : Resolve}
    (hhead : resolveHead.KeepsPaths) : ∀ (path : TypePath), path.Readable →
      ∃ path' : TypePath, path'.Readable ∧ path'.render id id = path.render resolve resolveHead
  | .last name as, h => by
    obtain ⟨as', has', htext, -⟩ := exists_argumentsText hr as h.2
    -- the names of the path stand in place of the name
    obtain ⟨first, more, hfirst, hmore, heq⟩ := hhead name h.1
    refine ⟨.ofNamesWith as' first more, TypePath.readable_ofNamesWith has' hfirst hmore, ?_⟩
    rw [TypePath.render_ofNamesWith, TypePath.render, htext, heq]
  | .outer name as inner, h => by
    obtain ⟨as', has', htext, -⟩ := exists_argumentsText hr as h.2.1
    obtain ⟨inner', hinner', hinner⟩ := inner.exists_render hr keepsPaths_id h.2.2
    refine ⟨.outer name as' inner', ⟨h.1, has', hinner'⟩, ?_⟩
    rw [TypePath.render, TypePath.render, htext, hinner]

theorem exists_argumentsText (hr : resolve.KeepsPaths) : ∀ (as : List TypeArgument),
    ArgumentsReadable as → ∃ as' : List TypeArgument, ArgumentsReadable as' ∧
      argumentsText id as' = argumentsText resolve as ∧
        furtherText id as' = furtherText resolve as
  | [], _ => ⟨[], trivial, rfl, rfl⟩
  | a :: rest, h => by
    obtain ⟨a', ha', htext⟩ := a.exists_render hr h.1
    obtain ⟨rest', hrest', -, hfurther⟩ := exists_argumentsText hr rest h.2
    refine ⟨a' :: rest', ⟨ha', hrest'⟩, ?_, ?_⟩
    · rw [argumentsText, argumentsText, htext, hfurther]
    · rw [furtherText, furtherText, htext, hfurther]

theorem TypeArgument.exists_render (hr : resolve.KeepsPaths) : ∀ (a : TypeArgument), a.Readable →
    ∃ a' : TypeArgument, a'.Readable ∧ a'.render id = a.render resolve
  | .any, _ => ⟨.any, trivial, rfl⟩
  | .exact type, h => by
    obtain ⟨type', htype', href, htext⟩ := type.exists_render hr h.2
    exact ⟨.exact type', ⟨href h.1, htype'⟩, htext⟩
  | .upper bound, h => by
    obtain ⟨bound', hbound', href, htext⟩ := bound.exists_render hr h.2
    refine ⟨.upper bound', ⟨href h.1, hbound'⟩, ?_⟩
    rw [TypeArgument.render, TypeArgument.render, htext]
  | .lower bound, h => by
    obtain ⟨bound', hbound', href, htext⟩ := bound.exists_render hr h.2
    refine ⟨.lower bound', ⟨href h.1, hbound'⟩, ?_⟩
    rw [TypeArgument.render, TypeArgument.render, htext]

end

theorem JavaType.Readable.isTypeText {type : JavaType} (h : type.Readable)
    (hr : resolve.KeepsPaths) : IsTypeText (type.render resolve) := by
  obtain ⟨type', htype', -, htext⟩ := type.exists_render hr h
  exact ⟨type', htype', htext⟩

end Resolved

/-! ## Declarations -/

/-- An accessor with a word as its name, whose type could be written again. -/
def IsReadAccessor (a : Accessor) : Prop :=
  isName a.name = true ∧ ∀ type ∈ a.returnType, IsTypeText type

/-- A declaration with names and types that could be written again. -/
structure IsReadDeclaration (d : TypeDeclaration) : Prop where
  simpleName : IsIdentifier d.simpleName
  package : ∀ p ∈ d.package, IsPath p
  declared : ∀ a ∈ d.declared, IsReadAccessor a

/-- A bean with names and types that could be written again. -/
structure IsReadBean (b : Bean) : Prop where
  simpleName : IsIdentifier b.simpleName
  package : ∀ p ∈ b.package, IsPath p
  accessors : ∀ a ∈ b.accessors, IsReadAccessor a

theorem isReadDeclaration {u : SourceFile} (hu : u.Readable) {c : ClassDeclaration}
    (hc : c ∈ u.classes) :
    IsReadDeclaration (c.declaration (Scope.ofImports u.imports) u.package) where
  simpleName := (hu.classes c hc).name
  package := hu.package
  declared := by
    intro a ha
    obtain ⟨m, hm, rfl⟩ := List.mem_map.mp ha
    have hreadable := (hu.classes c hc).methods m (List.mem_of_mem_filter hm)
    refine ⟨hreadable.name.1, fun type htype => ?_⟩
    obtain ⟨result, hresult, rfl⟩ := Option.map_eq_some_iff.mp htype
    exact (hreadable.result result hresult).isTypeText (keepsPaths_ofImports hu.imports)

/-! ## Catalogs -/

namespace Catalog

/-- A catalog that comes from the texts of sources. -/
inductive Reached : Catalog → Prop
  | empty : Reached {}
  | parse {c c' : Catalog} {ids : List TypeId} {source : String} : Reached c →
      c.parse source = .ok (ids, c') → Reached c'
  | link {c : Catalog} : Reached c → Reached c.link

/-- Every declaration in a catalog could be written again. -/
def HoldsRead (c : Catalog) : Prop :=
  ∀ d ∈ c.stored, IsReadDeclaration d

theorem HoldsRead.add {c : Catalog} (h : c.HoldsRead) {d : TypeDeclaration}
    (hd : IsReadDeclaration d) (superclass : Option String) : (c.add d superclass).HoldsRead := by
  intro d' hd'
  rcases List.mem_append.mp hd' with hold | hnew
  · exact h d' hold
  · exact List.mem_singleton.mp hnew ▸ hd

theorem HoldsRead.addFile {c : Catalog} (h : c.HoldsRead) {u : SourceFile} (hu : u.Readable) :
    (c.addFile u).2.HoldsRead := by
  -- the classes of the file are added one after another
  have hfold : ∀ (classes : List ClassDeclaration) (c : Catalog), c.HoldsRead →
      classes ⊆ u.classes →
      (classes.foldl (fun c d => c.add (d.declaration (Scope.ofImports u.imports) u.package)
        (d.superclassName? (Scope.ofImports u.imports))) c).HoldsRead := by
    intro classes
    induction classes with
    | nil => exact fun c hc _ => hc
    | cons k classes ih =>
      intro c hc hsub
      rw [List.cons_subset] at hsub
      exact ih _ (hc.add (isReadDeclaration hu hsub.1) _) hsub.2
  exact hfold u.classes c h (List.Subset.refl _)

/-- A superclass changes neither names nor accessors. -/
theorem HoldsRead.setSuperclass {c : Catalog} (h : c.HoldsRead) (id parent : TypeId) :
    (c.setSuperclass id parent).HoldsRead := by
  intro d hd
  obtain ⟨i, hi, rfl⟩ := List.mem_iff_getElem.mp hd
  simp only [Catalog.setSuperclass, List.length_modify] at hi
  have hold := h c.stored[i] (List.getElem_mem hi)
  simp only [Catalog.setSuperclass, List.getElem_modify]
  split_ifs
  · exact ⟨hold.simpleName, hold.package, hold.declared⟩
  · exact hold

theorem HoldsRead.linkOne {c : Catalog} (h : c.HoldsRead) (id : TypeId) (name : String) :
    (c.linkOne id name).HoldsRead := by
  rw [Catalog.linkOne]
  split
  · exact h.setSuperclass id _
  · exact h

theorem HoldsRead.link {c : Catalog} (h : c.HoldsRead) : c.link.HoldsRead := by
  have hfold : ∀ (pending : List (TypeId × String)) (c : Catalog), c.HoldsRead →
      (pending.foldl (fun c p => c.linkOne p.1 p.2) c).HoldsRead := by
    intro pending
    induction pending with
    | nil => exact fun c hc => hc
    | cons p pending ih => exact fun c hc => ih _ (hc.linkOne p.1 p.2)
  exact hfold c.pending c h

/-- **Every declaration in a catalog of sources could be written again.** -/
theorem Reached.holdsRead {c : Catalog} (hc : c.Reached) : c.HoldsRead := by
  induction hc with
  | empty => exact fun d hd => absurd hd List.not_mem_nil
  | @parse c c' ids source _ hparse ih =>
    rw [Catalog.parse] at hparse
    cases hu : SourceFile.parse source with
    | error e =>
      rw [hu] at hparse
      exact nomatch hparse
    | ok u =>
      rw [hu] at hparse
      have hadd : c.addFile u = (ids, c') := Except.ok.inj hparse
      have hread := ih.addFile (readable_of_parse hu)
      rwa [hadd] at hread
  | link _ ih => exact ih.link

theorem isReadBean_of_bean? {c : Catalog} (h : c.HoldsRead) {id : TypeId} {b : Bean}
    (hb : c.hierarchy.bean? id = some b) : IsReadBean b := by
  obtain ⟨d, hd, rfl⟩ := Option.map_eq_some_iff.mp hb
  have hread := h d (List.mem_of_getElem? hd)
  refine ⟨hread.simpleName, hread.package, fun a ha => ?_⟩
  -- an accessor of the bean is declared somewhere along its lineage
  have hdeclared : a ∈ c.hierarchy.declaredAlong id :=
    List.mem_of_find?_eq_some (Accessor.mem_firsts_iff.mp ha)
  obtain ⟨i, -, hi⟩ := List.mem_flatMap.mp hdeclared
  cases hget : c.hierarchy.get? i with
  | none =>
    rw [hget] at hi
    exact absurd hi List.not_mem_nil
  | some d' =>
    rw [hget] at hi
    exact (h d' (List.mem_of_getElem? hget)).declared a hi

/-- **Every bean of a catalog of sources** has names and types that could be written again. -/
theorem isReadBean_of_mem_beans {c : Catalog} (hc : c.Reached) {b : Bean} (hb : b ∈ c.beans) :
    IsReadBean b := by
  obtain ⟨id, -, hid⟩ := List.mem_filterMap.mp hb
  exact isReadBean_of_bean? hc.holdsRead hid

theorem Reached.readNext {c : Catalog} (hc : c.Reached) (t : Files.Tree) (name : String) :
    (c.readNext t name).catalog.Reached := by
  rw [Catalog.readNext]
  split
  · exact hc
  · rename_i ids c' hfile
    rw [Catalog.readFile] at hfile
    split at hfile
    · exact nomatch hfile
    · split at hfile
      · exact nomatch hfile
      · rename_i source _ _ hparse
        obtain rfl := Except.ok.inj hfile
        exact hc.parse hparse

/-- Files and directories make a catalog of sources. -/
theorem Reached.readPaths {c : Catalog} (hc : c.Reached) (t : Files.Tree) (paths : List String) :
    (c.readPaths t paths).catalog.Reached := by
  have hfiles : ∀ (names : List String) (c : Catalog), c.Reached →
      (c.readFiles t names).catalog.Reached := by
    intro names
    induction names with
    | nil => exact fun c hc => hc
    | cons name names ih => exact fun c hc => ih _ (hc.readNext t name)
  exact (hfiles _ c hc).link

end Catalog

end Java
end BeanBuilder
