import BeanBuilder.Java.Scope
import BeanBuilder.Log
import BeanBuilder.OrderedMap

/-!
# Catalogs of classes

A catalog collects the classes of source files.  A class that is declared again takes the place of
the earlier one in the list; the earlier declaration stays in store, because other classes may
already extend it.

Superclasses are named in sources and found when the catalog is linked: a name means the class with
that qualified name, else the class of that name in the package of the subclass, else the first
class in the list with that simple name.
-/

namespace BeanBuilder
namespace Java

/-- Classes that were read. -/
structure Catalog where
  /-- All declarations, each at its place. -/
  stored : List TypeDeclaration := []
  /-- The places of the classes that are listed, by qualified name. -/
  listed : OrderedMap String TypeId := {}
  /-- The classes whose superclasses are still to be found, with the names of these. -/
  pending : List (TypeId × String) := []

namespace Catalog

/-- A record of the work on sources. -/
def record (level : Log.Level) (message : String) : Log.Record :=
  ⟨level, "buildergen.sources.java_reader", message⟩

/-- The stored declarations as a hierarchy. -/
def hierarchy (c : Catalog) : Hierarchy :=
  ⟨c.stored⟩

/-- The classes that are listed, in the order of their first occurrence. -/
def ids (c : Catalog) : List TypeId :=
  c.listed.values

/-- The listed classes as the generator sees them. -/
def beans (c : Catalog) : List Bean :=
  c.ids.filterMap c.hierarchy.bean?

/-- The catalog with one more class. -/
def add (c : Catalog) (d : TypeDeclaration) (superclass : Option String) : Catalog where
  stored := c.stored ++ [d]
  listed := c.listed.insert d.qualifiedName c.stored.length
  pending := c.pending ++ (superclass.map fun name => (c.stored.length, name)).toList

/-- The catalog with the classes of a source file, and their places. -/
def addFile (c : Catalog) (f : SourceFile) : List TypeId × Catalog :=
  let s := Scope.ofImports f.imports
  let after :=
    f.classes.foldl (fun c d => c.add (d.declaration s f.package) (d.superclassName? s)) c
  ((List.range f.classes.length).map (c.stored.length + ·), after)

/-- The record of reading a source file. -/
def readRecord (classes : Nat) (name : Option String) : Log.Record :=
  let origin := (name.filter (· ≠ "")).getD "<memory>"
  record .debug ("Parsed " ++ toString classes ++ " classes from " ++ origin)

/-- The catalog with the classes of a text, and their places. -/
def parse (c : Catalog) (source : String) : Except SyntaxFault (List TypeId × Catalog) :=
  (SourceFile.parse source).map c.addFile

/-- The place of the listed class with a qualified name. -/
def find? (c : Catalog) (qualifiedName : String) : Option TypeId :=
  c.listed.get? qualifiedName

/-- The place of the first listed class with a simple name. -/
def findSimple? (c : Catalog) (name : String) : Option TypeId :=
  c.ids.find? fun id => (c.hierarchy.get? id).any fun d => d.simpleName = name

/-- The place of the class that a name means in a package. -/
def lookup? (c : Catalog) (name : String) (package : Option String) : Option TypeId :=
  let inPackage := (package.filter (· ≠ "")).bind fun p => c.find? (p ++ "." ++ name)
  (c.find? name).or (inPackage.or (c.findSimple? name))

/-- The superclass that a name means for a class; no class is its own superclass. -/
def superclass? (c : Catalog) (id : TypeId) (name : String) : Option TypeId :=
  (c.lookup? name ((c.hierarchy.get? id).bind TypeDeclaration.package)).filter (· ≠ id)

/-- The catalog in which a class has a superclass. -/
def setSuperclass (c : Catalog) (id parent : TypeId) : Catalog :=
  { c with stored := c.stored.modify id fun d => { d with superclass := some parent } }

/-- The qualified name of a class. -/
def nameOf (c : Catalog) (id : TypeId) : String :=
  ((c.hierarchy.get? id).map TypeDeclaration.qualifiedName).getD ""

/-- Links one class to the superclass that it names. -/
def linkOne (c : Catalog) (id : TypeId) (name : String) : Catalog :=
  match c.superclass? id name with
  | some parent => c.setSuperclass id parent
  | none => c

/-- Links the classes whose superclasses are still to be found. -/
def link (c : Catalog) : Catalog :=
  { c.pending.foldl (fun c (id, name) => c.linkOne id name) c with pending := [] }

/-- The records of linking: one for every superclass that is not found. -/
def linkRecords (c : Catalog) : List Log.Record :=
  c.pending.filterMap fun (id, name) =>
    if (c.superclass? id name).isSome then none
    else
      some (record .debug ("Superclass " ++ name ++ " of " ++ c.nameOf id ++ " not in sources"))

end Catalog
end Java
end BeanBuilder
