import BeanBuilder.Proofs.Files.Layout
import BeanBuilder.Proofs.Java.BuilderNames
import BeanBuilder.Proofs.Java.ReadBeans
import BeanBuilder.Proofs.Java.ReadFiles
import BeanBuilder.Proofs.OrderedMap

/-! # Names of listed classes

A catalog lists every class under its own name, and every name once, however often a class of that
name is declared (`ListsNames`).  Reading keeps it so, and linking changes no name.  The beans of
what is read are therefore known by their names (`nodup_qualifiedName_readPaths`).  All these names
are words with dots between them (`isQualified_qualifiedName_readPaths`), so they hold no null
character (`holdsNull_qualifiedName_readPaths`).
-/
namespace BeanBuilder
namespace Java

open Files

/-- An identifier stands between the dots of a name. -/
theorem IsIdentifier.isWord {name : String} (h : IsIdentifier name) : IsWord name := by
  have hparts := isIdentifierPart_of_isName h.1
  refine ⟨?_, fun hdot => ?_, fun hslash => ?_⟩
  · rintro rfl
    exact absurd h.1 (by decide)
  · exact absurd (hparts '.' hdot) (by decide +kernel)
  · exact absurd (hparts '/' hslash) (by decide +kernel)

/-- Identifiers with points between them are words with points between them. -/
theorem IsPath.isDotted {path : String} (h : IsPath path) : IsDotted path := by
  obtain ⟨first, more, hfirst, hmore, rfl⟩ := h
  refine ⟨first :: more, List.cons_ne_nil _ _, fun name hname => ?_, rfl⟩
  rcases List.mem_cons.mp hname with rfl | htail
  · exact hfirst.1
  · exact (hmore name htail).1

/-- A path of identifiers is a qualified name. -/
theorem IsPath.isQualified {path : String} (h : IsPath path) : Store.IsQualified path := by
  obtain ⟨first, more, hfirst, hmore, rfl⟩ := h
  have hall : ∀ name ∈ first :: more, IsWord name :=
    List.forall_mem_cons.mpr ⟨hfirst.isWord, fun name hname => (hmore name hname).isWord⟩
  have hsplit := List.dropLast_concat_getLast (List.cons_ne_nil first more)
  refine ⟨(first :: more).dropLast, (first :: more).getLast (List.cons_ne_nil _ _), ?_, ?_, ?_⟩
  · exact fun name hname => hall name (List.mem_of_mem_dropLast hname)
  · exact hall _ (List.getLast_mem _)
  · rw [Store.joined, hsplit]

namespace Catalog

variable {c c' : Catalog}

/-- Every name is listed once, and the class that is listed under it has that name. -/
structure ListsNames (c : Catalog) : Prop where
  nodup : c.listed.keys.Nodup
  named : ∀ e ∈ c.listed.toList,
    (c.hierarchy.get? e.2).map TypeDeclaration.qualifiedName = some e.1

theorem listsNames_empty : ({} : Catalog).ListsNames :=
  ⟨List.nodup_nil, fun _ he => absurd he List.not_mem_nil⟩

/-- A class takes the place of an earlier one of its name, or a new place at the end. -/
theorem ListsNames.add (h : c.ListsNames) (d : TypeDeclaration) (superclass : Option String) :
    (c.add d superclass).ListsNames where
  nodup := OrderedMap.nodup_keys_insert h.nodup d.qualifiedName c.stored.length
  named := by
    intro e he
    simp only [Hierarchy.get?, hierarchy, Catalog.add]
    rcases OrderedMap.mem_of_mem_insert he with rfl | hold
    · simp
    · have hname := h.named e hold
      obtain ⟨d', hd', -⟩ := Option.map_eq_some_iff.mp hname
      have hlt : e.2 < c.stored.length := (List.getElem?_eq_some_iff.mp hd').1
      rw [List.getElem?_append_left hlt]
      exact hname

theorem ListsNames.addAll (h : c.ListsNames) (ks : List ReadClass) : (c.addAll ks).ListsNames := by
  induction ks generalizing c with
  | nil => exact h
  | cons k rest ih => exact ih (h.add k.declaration k.superclass)

/-- Superclasses have no part in the names. -/
theorem ListsNames.of_sameClasses (h : c.ListsNames) (hsame : c'.SameClasses c) :
    c'.ListsNames where
  nodup := hsame.listed ▸ h.nodup
  named := by
    intro e he
    rw [hsame.map_get? e.2 TypeDeclaration.qualifiedName fun _ => rfl]
    exact h.named e (hsame.listed ▸ he)

/-- **The beans of a catalog have the names under which they are listed**, in their order. -/
theorem ListsNames.map_qualifiedName_beans (h : c.ListsNames) :
    c.beans.map Bean.qualifiedName = c.listed.keys := by
  have hall : ∀ entries : List (String × TypeId),
      (∀ e ∈ entries, (c.hierarchy.get? e.2).map TypeDeclaration.qualifiedName = some e.1) →
      ((entries.map Prod.snd).filterMap c.hierarchy.bean?).map Bean.qualifiedName =
        entries.map Prod.fst := by
    intro entries hnamed
    induction entries with
    | nil => rfl
    | cons e rest ih =>
      rw [List.forall_mem_cons] at hnamed
      obtain ⟨d, hd, hname⟩ := Option.map_eq_some_iff.mp hnamed.1
      obtain ⟨b, hb, hbean⟩ : ∃ b, c.hierarchy.bean? e.2 = some b ∧ b.qualifiedName = e.1 := by
        rw [Hierarchy.bean?, hd]
        exact ⟨_, rfl, hname⟩
      rw [List.map_cons, List.filterMap_cons_some hb, List.map_cons, List.map_cons, ih hnamed.2,
        hbean]
  exact hall c.listed.toList h.named

theorem listsNames_readPaths (t : Tree) (paths : List String) :
    (({} : Catalog).readPaths t paths).catalog.ListsNames := by
  rw [catalog_readPaths]
  exact (listsNames_empty.addAll _).of_sameClasses (sameClasses_link _)

/-- **Classes that are read have different names.** -/
theorem nodup_qualifiedName_readPaths (t : Tree) (paths : List String) :
    ((({} : Catalog).readPaths t paths).catalog.beans.map Bean.qualifiedName).Nodup := by
  have h := listsNames_readPaths t paths
  rw [h.map_qualifiedName_beans]
  exact h.nodup

/-- **The names of classes that are read** are words with dots between them. -/
theorem isQualified_qualifiedName_readPaths {t : Tree} {paths : List String} {b : Bean}
    (hb : b ∈ (({} : Catalog).readPaths t paths).catalog.beans) :
    Store.IsQualified b.qualifiedName := by
  have hread := isReadBean_of_mem_beans (Reached.empty.readPaths t paths) hb
  exact (isPath_qualify hread.package hread.simpleName).isQualified

theorem holdsNull_qualifiedName_readPaths {t : Tree} {paths : List String} {b : Bean}
    (hb : b ∈ (({} : Catalog).readPaths t paths).catalog.beans) :
    Path.holdsNull b.qualifiedName = false := by
  have hread := isReadBean_of_mem_beans (Reached.empty.readPaths t paths) hb
  have hpath : IsPath b.qualifiedName := isPath_qualify hread.package hread.simpleName
  have hnone : ∀ c ∈ b.qualifiedName.toList, c ≠ '\x00' :=
    (PathText.of_isDotted hpath.isDotted).ne_of_mem (by decide +kernel) (by decide)
  rw [Path.holdsNull, List.contains_eq_mem, decide_eq_false_iff_not]
  exact fun hnull => hnone _ hnull rfl

end Catalog
end Java
end BeanBuilder
