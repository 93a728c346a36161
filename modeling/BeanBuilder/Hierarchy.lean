import BeanBuilder.Accessor

/-!
# Class hierarchies

Declared types are kept in a list and refer to their superclasses by their places in it.  The
references are not restricted: a type may extend itself, two types may extend each other, and a
chain may run into a cycle that it does not start on.

The lineage of a type is the chain of its superclasses up to the first type that occurs twice.
Its accessors are those declared along the lineage, the type's own first; of two with one
signature the earlier one hides the later one.
-/

namespace BeanBuilder

/-- The place of a type in a hierarchy. -/
abbrev TypeId := Nat

/-- A type with what it declares itself. -/
structure TypeDeclaration where
  simpleName : String
  package : Option String := none
  declared : List Accessor := []
  /-- The parameter types of each constructor. -/
  constructors : List (List String) := []
  superclass : Option TypeId := none
  annotations : List String := []
  deriving DecidableEq, Repr

/-- The name with its package. -/
def TypeDeclaration.qualifiedName (d : TypeDeclaration) : String :=
  qualify d.package d.simpleName

/-- Declared types, each at its place. -/
structure Hierarchy where
  declarations : List TypeDeclaration := []
  deriving DecidableEq, Repr

namespace Hierarchy

/-- The declaration at a place. -/
def get? (h : Hierarchy) (id : TypeId) : Option TypeDeclaration :=
  h.declarations[id]?

/-- The number of declarations. -/
def size (h : Hierarchy) : Nat :=
  h.declarations.length

/-- The chain of superclasses from a type on, ended by a type that was seen before.  As many
steps as there are declarations are enough, since every step sees a new one. -/
def climb (h : Hierarchy) : (steps : Nat) → (seen : List TypeId) → TypeId → List TypeId
  | 0, _, _ => []
  | steps + 1, seen, id =>
    if id ∈ seen then []
    else match h.get? id with
      | none => []
      | some d =>
        id :: match d.superclass with
          | none => []
          | some parent => h.climb steps (id :: seen) parent

/-- A type and its superclasses, the most derived first. -/
def lineage (h : Hierarchy) (id : TypeId) : List TypeId :=
  h.climb h.size [] id

/-- Everything that is declared along the lineage of a type. -/
def declaredAlong (h : Hierarchy) (id : TypeId) : List Accessor :=
  (h.lineage id).flatMap fun i => ((h.get? i).map TypeDeclaration.declared).getD []

/-- The accessors of a type, inherited ones included. -/
def accessors (h : Hierarchy) (id : TypeId) : List Accessor :=
  Accessor.firsts (h.declaredAlong id)

/-- A type of the hierarchy as the generator sees it. -/
def bean? (h : Hierarchy) (id : TypeId) : Option Bean :=
  (h.get? id).map fun d =>
    { simpleName := d.simpleName
      package := d.package
      accessors := h.accessors id
      constructors := d.constructors
      annotations := d.annotations }

end Hierarchy
end BeanBuilder
