import BeanBuilder.Java.Sources
import BeanBuilder.Proofs.Java.Catalogs
import BeanBuilder.Proofs.Results

/-! # Files that are read, and files that are not

Whether a file is read, and which classes it declares, depends on its name and on the tree alone
(`sourceOf`), not on what the catalog holds already.  A file that is read adds its classes, and one
that is not leaves the catalog as it is and is reported (`readNext_of_ok`, `readNext_of_error`).

So files that are not read leave no trace in the catalog, neither among its classes nor in the
superclasses that a link attaches, and each of them is reported once (`readPaths_skips_faults`).
-/
namespace BeanBuilder
namespace Java

open Files

/-- The source file of a name, or why there is none. -/
def sourceOf (t : Tree) (name : String) : Except SourceFault SourceFile := do
  let source ← Catalog.readText t name
  (SourceFile.parse source).mapError .syntactic

/-- Why a file is not read: it is missing, not in UTF-8, or no Java. -/
def faultOf? (t : Tree) (name : String) : Option SourceFault :=
  match sourceOf t name with
  | .ok _ => none
  | .error e => some e

/-- The classes that a file declares; a file that is not read declares none. -/
def classesIn (t : Tree) (name : String) : List ReadClass :=
  match sourceOf t name with
  | .ok u => u.readClasses
  | .error _ => []

/-- The report on a file that is not read. -/
def SourceFault.diagnostic (e : SourceFault) (name : String) : Diagnostic :=
  ⟨.sourceParseFailure, (e.problem (some name)).text, some name⟩

namespace Catalog

variable {c : Catalog} {t : Tree} {name : String} {names : List String} {u : SourceFile}
  {e : SourceFault}

/-! ## One file -/

theorem readFile_eq (c : Catalog) (t : Tree) (name : String) :
    c.readFile t name = (sourceOf t name).map c.addFile := by
  rw [readFile, sourceOf]
  cases readText t name with
  | error e => rfl
  | ok source =>
    simp only [except_ok_bind, Catalog.parse]
    cases SourceFile.parse source <;> rfl

/-- A file that is read adds its classes and is not reported. -/
theorem readNext_of_ok (h : sourceOf t name = .ok u) :
    (c.readNext t name).catalog = c.addAll u.readClasses ∧
      (c.readNext t name).diagnostics = [] := by
  rw [readNext, readFile_eq, h]
  exact ⟨addFile_eq_addAll c u, rfl⟩

/-- **A file that is not read changes nothing in the catalog**, neither the classes nor the
superclasses that are still to be found, and is reported. -/
theorem readNext_of_error (h : sourceOf t name = .error e) :
    (c.readNext t name).catalog = c ∧ (c.readNext t name).diagnostics = [e.diagnostic name] := by
  rw [readNext, readFile_eq, h]
  exact ⟨rfl, rfl⟩

theorem sourceOf_of_faultOf? (h : faultOf? t name = some e) : sourceOf t name = .error e := by
  rw [faultOf?] at h
  split at h
  · cases h
  · rename_i hsource
    rw [hsource, Option.some.inj h]

theorem exists_sourceOf_of_faultOf? (h : faultOf? t name = none) :
    ∃ u, sourceOf t name = .ok u := by
  rw [faultOf?] at h
  split at h
  · exact ⟨_, ‹_›⟩
  · cases h

theorem catalog_readNext (c : Catalog) (t : Tree) (name : String) :
    (c.readNext t name).catalog = c.addAll (classesIn t name) := by
  rw [classesIn]
  cases h : sourceOf t name with
  | ok u => exact (readNext_of_ok h).1
  | error e => exact (readNext_of_error h).1

theorem diagnostics_readNext (c : Catalog) (t : Tree) (name : String) :
    (c.readNext t name).diagnostics = ((faultOf? t name).map (·.diagnostic name)).toList := by
  rw [faultOf?]
  cases h : sourceOf t name with
  | ok u => exact (readNext_of_ok h).2
  | error e => exact (readNext_of_error h).2

/-! ## All files -/

/-- The classes of files are added in their order. -/
theorem catalog_readFiles (c : Catalog) (t : Tree) (names : List String) :
    (c.readFiles t names).catalog = c.addAll (names.flatMap (classesIn t)) := by
  induction names generalizing c with
  | nil => rfl
  | cons name rest ih =>
    rw [List.flatMap_cons, addAll_append, ← catalog_readNext, ← ih]
    rfl

/-- Each file that is not read is reported, in the order of the files. -/
theorem diagnostics_readFiles (c : Catalog) (t : Tree) (names : List String) :
    (c.readFiles t names).diagnostics =
      names.filterMap fun name => (faultOf? t name).map (·.diagnostic name) := by
  induction names generalizing c with
  | nil => rfl
  | cons name rest ih =>
    have hfirst : (c.readFiles t (name :: rest)).diagnostics =
        (c.readNext t name).diagnostics ++
          ((c.readNext t name).catalog.readFiles t rest).diagnostics := rfl
    rw [hfirst, ih, diagnostics_readNext, List.filterMap_cons]
    cases faultOf? t name <;> rfl

/-- The files among some that are read. -/
def soundAmong (t : Tree) (names : List String) : List String :=
  names.filter fun name => (faultOf? t name).isNone

/-- Files that are not read declare no classes. -/
theorem flatMap_classesIn_soundAmong (t : Tree) (names : List String) :
    (soundAmong t names).flatMap (classesIn t) = names.flatMap (classesIn t) := by
  induction names with
  | nil => rfl
  | cons name rest ih =>
    cases h : faultOf? t name with
    | none =>
      rw [soundAmong, List.filter_cons_of_pos (by simp [h]), List.flatMap_cons,
        List.flatMap_cons, ← ih]
      rfl
    | some e =>
      have hnone : classesIn t name = [] := by rw [classesIn, sourceOf_of_faultOf? h]
      rw [soundAmong, List.filter_cons_of_neg (by simp [h]), List.flatMap_cons, hnone, ← ih]
      rfl

/-! ## Paths -/

/-- A text stands for itself unless it leads to a directory. -/
theorem expand_of_not_directory (h : t.isDirectory (Path.ofString name) = false) :
    t.expand ".java" name = [name] := by
  rw [Tree.expand]
  split
  · rfl
  · split
    · rfl
    · rename_i place hplace
      have hfile : t.isDirectoryAt place = false := by
        rw [Tree.isDirectoryAt]
        rw [Tree.isDirectory, Tree.entry?, hplace, except_ok_bind] at h
        cases hfind : t.find? place with
        | none => rfl
        | some entry =>
          rw [hfind] at h
          cases entry with
          | file bytes => rfl
          | directory => cases h
      rw [if_neg (by rw [hfile]; exact Bool.false_ne_true)]

theorem expandAll_of_not_directory
    (h : ∀ name ∈ names, t.isDirectory (Path.ofString name) = false) :
    expandAll t names = names := by
  rw [expandAll, List.flatMap_congr fun name hn => expand_of_not_directory (h name hn)]
  exact List.flatMap_singleton' names

/-- What is read stands where the name leads to. -/
theorem entry?_of_read {bytes : ByteArray} (h : t.read name = .ok bytes) :
    t.entry? (Path.ofString name) = .ok (.file bytes) := by
  simp only [Tree.read] at h
  split at h
  · cases h
  · cases hentry : t.entry? (Path.ofString name) with
    | error e =>
      rw [hentry] at h
      cases h
    | ok entry =>
      rw [hentry] at h
      cases entry with
      | directory => cases h
      | file content =>
        dsimp only at h
        split at h
        · cases h
        · rw [Except.ok.inj h]

/-- A file that is read is no directory. -/
theorem isDirectory_of_faultOf? (h : faultOf? t name = none) :
    t.isDirectory (Path.ofString name) = false := by
  obtain ⟨u, hu⟩ := exists_sourceOf_of_faultOf? h
  obtain ⟨source, hread, -⟩ := except_bind_eq_ok_iff.mp hu
  rw [readText] at hread
  cases hbytes : t.read name with
  | error e =>
    rw [hbytes] at hread
    cases hread
  | ok bytes => rw [Tree.isDirectory, entry?_of_read hbytes]

theorem expandAll_soundAmong (t : Tree) (names : List String) :
    expandAll t (soundAmong t names) = soundAmong t names := by
  refine expandAll_of_not_directory fun name hname => isDirectory_of_faultOf? ?_
  exact Option.isNone_iff_eq_none.mp (List.mem_filter.mp hname).2

theorem catalog_readPaths (c : Catalog) (t : Tree) (paths : List String) :
    (c.readPaths t paths).catalog =
      (c.addAll ((expandAll t paths).flatMap (classesIn t))).link := by
  rw [← catalog_readFiles]
  rfl

theorem diagnostics_readPaths (c : Catalog) (t : Tree) (paths : List String) :
    (c.readPaths t paths).diagnostics =
      (expandAll t paths).filterMap fun name => (faultOf? t name).map (·.diagnostic name) :=
  diagnostics_readFiles c t (expandAll t paths)

/-- **Files that are not read leave no trace.**  Whatever files some paths stand for, the linked
catalog is the one of those files among them that are read, with the same classes at the same places
and the same superclasses.  Each of the other files is reported once, in their order and by its
name, and leaves the catalog that it finds untouched.  Paths that lead to no directory stand for
themselves. -/
theorem readPaths_skips_faults (c : Catalog) (t : Tree) (paths : List String) :
    (c.readPaths t paths).catalog = (c.readPaths t (soundAmong t (expandAll t paths))).catalog ∧
    (c.readPaths t (soundAmong t (expandAll t paths))).diagnostics = [] ∧
    (c.readPaths t paths).diagnostics = (expandAll t paths).filterMap (fun name =>
      (faultOf? t name).map fun e =>
        ⟨.sourceParseFailure, (e.problem (some name)).text, some name⟩) ∧
    (∀ (c : Catalog) (name : String) (e : SourceFault), faultOf? t name = some e →
      (c.readNext t name).catalog = c) ∧
    ((∀ name ∈ paths, t.isDirectory (Path.ofString name) = false) → expandAll t paths = paths) := by
  refine ⟨?_, ?_, diagnostics_readPaths c t paths, fun c name e h => ?_, expandAll_of_not_directory⟩
  · rw [catalog_readPaths, catalog_readPaths, expandAll_soundAmong, flatMap_classesIn_soundAmong]
  · rw [diagnostics_readPaths, expandAll_soundAmong]
    refine List.filterMap_eq_nil_iff.mpr fun name hname => ?_
    rw [Option.isNone_iff_eq_none.mp (List.mem_filter.mp hname).2]
    rfl
  · exact (readNext_of_error (sourceOf_of_faultOf? h)).1

/-- Two sources, one extending the other, a file that is not in UTF-8, and one that is no Java. -/
def faultyTree : Tree where
  entries :=
    [(["B.java"], .file "class B extends A { }".toUTF8),
      (["Bytes.java"], .file (ByteArray.mk #[0xff])),
      (["Broken.java"], .file r"class A { int".toUTF8),
      (["A.java"], .file "class A { int getX() { return 1; } }".toUTF8)]

theorem readPaths_skips_faults_faultyTree :
    let names := ["B.java", "Bytes.java", "Gone.java", "A.java", "Broken.java"]
    let r := ({} : Catalog).readPaths faultyTree names
    expandAll faultyTree names = names ∧
      r.catalog = (({} : Catalog).readPaths faultyTree ["B.java", "A.java"]).catalog ∧
      r.diagnostics.map Diagnostic.subject =
        [some "Bytes.java", some "Gone.java", some "Broken.java"] := by
  intro names r
  have hdirectory : ∀ name ∈ names, faultyTree.isDirectory (Path.ofString name) = false := by
    decide +kernel
  have hsound : soundAmong faultyTree names = ["B.java", "A.java"] := by decide +kernel
  obtain ⟨hcatalog, -, hdiagnostics, -, hnames⟩ := readPaths_skips_faults {} faultyTree names
  have hself := hnames hdirectory
  rw [hself, hsound] at hcatalog
  refine ⟨hself, hcatalog, ?_⟩
  rw [hdiagnostics, hself]
  decide +kernel

end Catalog
end Java
end BeanBuilder
