import BeanBuilder.Hierarchy
import BeanBuilder.Java.SourceFile
import BeanBuilder.TypeText

/-!
# Names in a source file

Unqualified names of types stand for what the file imports: a type that is imported by name, or a
well-known type of `java.util` if all of that package is imported.  Other names stand for
themselves.

With its names resolved a class becomes a type declaration: its methods that are not static are
accessors, and without a constructor it has one without parameters.
-/

namespace BeanBuilder
namespace Java

/-- What the imports of a file make of unqualified names. -/
structure Scope where
  /-- The paths of the types that are imported by name, the last one first. -/
  named : List (String × String) := []
  packages : List String := []
  deriving DecidableEq, Repr

namespace Scope

/-- The types of `java.util` that are known without their sources. -/
def utilityTypes : List String :=
  ["List", "Set", "Map", "Collection", "ArrayList", "LinkedList", "HashSet", "LinkedHashSet",
    "TreeSet", "HashMap", "LinkedHashMap", "TreeMap", "Optional", "Date", "UUID"]

/-- The package of those types. -/
def utilityPackage : String :=
  "java.util"

/-- The last part of a name with points. -/
def lastPart (path : String) : String :=
  (Text.cutString '.' path).getLast?.getD ""

/-- The scope of some imports; static ones do not count. -/
def ofImports (imports : List Import) : Scope :=
  let types := imports.filter fun i => !i.isStatic
  let named := types.filter fun i => !i.isWildcard
  { named := (named.map fun i => (lastPart i.path, i.path)).reverse
    packages := (types.filter fun i => i.isWildcard).map (·.path) }

/-- What a name stands for. -/
def resolve (s : Scope) (name : String) : String :=
  if name.toList.contains '.' then name
  else match s.named.lookup name with
    | some path => path
    | none =>
      if s.packages.contains utilityPackage && utilityTypes.contains name then
        utilityPackage ++ "." ++ name
      else name

end Scope

/-- A type as it is written in a scope. -/
def JavaType.renderIn (s : Scope) (t : JavaType) : String :=
  t.render s.resolve

/-- The annotation that marks methods to be left out. -/
def ignoreMarker : String :=
  "BuilderPatternIgnore"

/-- A method as an accessor. -/
def Method.accessor (s : Scope) (m : Method) : Accessor where
  name := m.name
  returnType := m.result.map (JavaType.renderIn s)
  parameterTypes := m.parameters.map (JavaType.renderIn s)
  ignored := m.modifiers.annotations.contains ignoreMarker

namespace ClassDeclaration

/-- The class as a type declaration of a package, its superclass not yet known. -/
def declaration (s : Scope) (package : Option String) (c : ClassDeclaration) :
    TypeDeclaration where
  simpleName := c.name
  package := package
  declared := (c.methods.filter fun m => !m.modifiers.isStatic).map (Method.accessor s)
  constructors :=
    if c.constructors.isEmpty then [[]]
    else c.constructors.map fun parameters => parameters.map (JavaType.renderIn s)
  annotations := c.modifiers.annotations

/-- The name of the superclass without type arguments. -/
def superclassName? (s : Scope) (c : ClassDeclaration) : Option String :=
  c.superclass.map fun t => TypeText.raw (t.renderIn s)

end ClassDeclaration
end Java
end BeanBuilder
