import BeanBuilder.AccessorName

/-!
# Accessors and beans

An accessor is a method of a source type, known by its name, the type it returns and the types
of its parameters.  A bean is a source type as the generator sees it: every accessor that can be
called on it, inherited ones included, its constructors and its annotations.
-/

namespace BeanBuilder

/-- A method of a source type; one without a return type returns nothing. -/
structure Accessor where
  name : String
  returnType : Option String := none
  parameterTypes : List String := []
  /-- Marked so that no member is made of it. -/
  ignored : Bool := false
  deriving DecidableEq, Repr

namespace Accessor

/-- The name with the parameter types: an overriding method has the same signature. -/
def signature (a : Accessor) : String × List String :=
  (a.name, a.parameterTypes)

/-- The names of the primitive types. -/
def primitiveTypes : List String :=
  ["boolean", "byte", "short", "int", "long", "char", "float", "double"]

/-- Whether a type is primitive as it is written. -/
def isPrimitive (type : String) : Bool :=
  primitiveTypes.contains type

/-- Whether an accessor returns a value of a primitive type. -/
def returnsPrimitive (a : Accessor) : Bool :=
  a.returnType.any isPrimitive

/-- The first accessor of every signature that is not among some that were seen before. -/
def firstsAfter (seen : List (String × List String)) : List Accessor → List Accessor
  | [] => []
  | a :: rest =>
    if a.signature ∈ seen then firstsAfter seen rest
    else a :: firstsAfter (a.signature :: seen) rest

/-- The first accessor of every signature. -/
def firsts (accessors : List Accessor) : List Accessor :=
  firstsAfter [] accessors

end Accessor

/-- A source type as the generator sees it. -/
structure Bean where
  simpleName : String
  package : Option String := none
  accessors : List Accessor := []
  /-- The parameter types of each constructor. -/
  constructors : List (List String) := []
  annotations : List String := []
  deriving DecidableEq, Repr

namespace Bean

/-- The name with its package. -/
def qualifiedName (b : Bean) : String :=
  qualify b.package b.simpleName

/-- Whether the type can be built without arguments. -/
def hasNoArgConstructor (b : Bean) : Bool :=
  b.constructors.any List.isEmpty

/-- Whether an annotation of a given name is present, written with or without its package. -/
def isAnnotatedWith (b : Bean) (name : String) : Bool :=
  b.annotations.contains name ||
    b.annotations.any fun a => Text.finishesWith ('.' :: name.toList) a.toList

end Bean
end BeanBuilder
