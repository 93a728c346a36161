import BeanBuilder.Accessor
import BeanBuilder.Diagnostic

/-!
# Pairing of getters and setters

A builder can be made of a type that has a constructor without arguments and whose getters and
setters are paired.  A getter is paired when exactly one setter has its suffix and takes exactly
one parameter.

The lenient check passes when the paired getters are as many as the getters or as many as the
setters; the strict check asks for both.
-/

namespace BeanBuilder
namespace Bean

/-- The accessors that read a value: `get`, `has` and `is`. -/
def getters (b : Bean) : List Accessor :=
  b.accessors.filter fun a => AccessorName.reads AccessorName.readingKinds a.name

/-- The accessors that are named as setters. -/
def setters (b : Bean) : List Accessor :=
  b.accessors.filter fun a => AccessorName.isSetter a.name

/-- The setters of one parameter with a suffix. -/
def settersFor (setters : List Accessor) (suffix : String) : List Accessor :=
  setters.filter fun s => AccessorName.suffixOf s.name = suffix && s.parameterTypes.length = 1

/-- Whether exactly one setter of one parameter has the suffix of a getter. -/
def isPaired (setters : List Accessor) (getter : Accessor) : Bool :=
  (settersFor setters (AccessorName.suffixOf getter.name)).length = 1

/-- The number of paired getters. -/
def pairedCount (b : Bean) : Nat :=
  b.getters.countP (isPaired b.setters)

/-- Whether the pairing is good enough, in the strict or the lenient sense. -/
def isPojoShaped (b : Bean) (strict : Bool) : Bool :=
  let allGetters := b.pairedCount = b.getters.length
  let allSetters := b.pairedCount = b.setters.length
  if strict then allGetters && allSetters else allGetters || allSetters

/-- The report on a missing constructor. -/
def constructorDiagnostics (b : Bean) : List Diagnostic :=
  if b.hasNoArgConstructor then []
  else [⟨.missingConstructor, "Missing no argument constructor", some b.qualifiedName⟩]

/-- The report on an insufficient pairing. -/
def shapeDiagnostics (b : Bean) (strict : Bool) : List Diagnostic :=
  if b.isPojoShaped strict then []
  else [⟨.notAPojo, "Class " ++ b.qualifiedName ++ " is not POJO.", some b.qualifiedName⟩]

/-- Every reason against making a builder of a bean; none means that it qualifies. -/
def objections (b : Bean) (strict requireConstructor : Bool) : List Diagnostic :=
  (if requireConstructor then b.constructorDiagnostics else []) ++ b.shapeDiagnostics strict

end Bean
end BeanBuilder
