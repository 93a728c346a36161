import BeanBuilder.Draft.Source
import BeanBuilder.Member

/-!
# Builders

The builder of a bean is a class with one field for every member, a method that adds one element
to each collection whose element type is known, a method that sets each member, the method
`build`, which makes the bean and hands over every field, and a static method that makes a new
builder.

The text is written with drafts, so the only way to fail is a name that is no literal.
-/

namespace BeanBuilder

open Draft

/-- How builders are laid out and named. -/
structure BuilderStyle where
  layout : Layout := {}
  builderSuffix : String := "Builder"
  factoryName : String := "create"
  deriving DecidableEq, Repr

/-- The text of a builder and the names under which it is kept. -/
structure BuilderSource where
  qualifiedName : String
  simpleName : String
  package : Option String
  text : String
  deriving DecidableEq, Repr

namespace BuilderStyle

/-- The simple name of the builder of a bean. -/
def builderName (s : BuilderStyle) (b : Bean) : String :=
  b.simpleName ++ s.builderSuffix

/-- The name of the builder of a bean with its package. -/
def builderType (s : BuilderStyle) (b : Bean) : String :=
  qualify b.package (s.builderName b)

/-- The fields of some members. -/
def writeFields? (d : SourceDraft) : List Member → Except InvalidLiteral SourceDraft
  | [] => .ok d
  | m :: rest => do
    let d ← d.addField? .ownClass m.type m.field m.initial
    writeFields? d rest

/-- A public method with a return type. -/
def publicMethod? (name returnType : String) : Except InvalidLiteral MethodDraft := do
  let m ← MethodDraft.new? name
  return { m with visibility := .everyone, returnType := some returnType }

/-- A method that changes the builder in one way and answers with the builder. -/
def fluentMethod? (name builderType parameterType parameterName statement : String) :
    Except InvalidLiteral MethodDraft := do
  let m ← publicMethod? name builderType
  let m ← m.addParameter? parameterType parameterName
  return (m.addLine statement).addLine "return this;"

/-- The method that adds one element to a collection; none where the element type is unknown. -/
def adder? (builderType : String) (m : Member) : Except InvalidLiteral (Option MethodDraft) :=
  match m.category, m.element with
  | .collection, some element => do
    let draft ← fluentMethod? (adderName m.accessor) builderType element "item"
      ("this." ++ m.field ++ ".add(item);")
    return some draft
  | _, _ => .ok none

/-- The method that sets a member. -/
def setter? (builderType : String) (m : Member) : Except InvalidLiteral MethodDraft :=
  fluentMethod? (setterName m.accessor) builderType m.type "obj" ("this." ++ m.field ++ " = obj;")

/-- The line of `build` that hands over one field. -/
def handOver (m : Member) : String :=
  "obj." ++ setterName m.accessor ++ "(" ++ m.field ++ ");"

/-- The method that makes the bean. -/
def buildMethod? (beanType : String) (members : List Member) :
    Except InvalidLiteral MethodDraft := do
  let m ← publicMethod? "build" beanType
  let m := m.addLine (beanType ++ " obj = new " ++ beanType ++ "();")
  let m := members.foldl (fun m member => m.addLine (handOver member)) m
  return m.addLine "return obj;"

/-- The static method that makes a new builder. -/
def factoryMethod? (name builderType : String) : Except InvalidLiteral MethodDraft := do
  let m ← publicMethod? name builderType
  return { m with isStatic := true }.addLine ("return new " ++ builderType ++ "();")

/-- Every method of a builder, in the order in which they are written. -/
def methods? (s : BuilderStyle) (b : Bean) (members : List Member) :
    Except InvalidLiteral (List MethodDraft) := do
  let adders ← members.mapM (adder? (s.builderType b))
  let setters ← members.mapM (setter? (s.builderType b))
  let build ← buildMethod? b.qualifiedName members
  let factory ← factoryMethod? s.factoryName (s.builderType b)
  return adders.filterMap id ++ setters ++ [build, factory]

/-- The package and the class header of a builder. -/
def header? (s : BuilderStyle) (b : Bean) : Except InvalidLiteral SourceDraft := do
  let d ← ({ layout := s.layout } : SourceDraft).definePackage? b.package
  d.defineClass? .everyone (s.builderName b) none

/-- The package, the class header and the fields of a builder. -/
def opening? (s : BuilderStyle) (b : Bean) (members : List Member) :
    Except InvalidLiteral SourceDraft := do
  let d ← s.header? b
  writeFields? d members

/-- The builder of a bean, or the first name that cannot be used. -/
def generate? (s : BuilderStyle) (c : Containers) (b : Bean) :
    Except InvalidLiteral BuilderSource := do
  let members := c.builderMembers b
  let d ← s.opening? b members
  let methods ← s.methods? b members
  let d := methods.foldl SourceDraft.addMethod d
  return {
    qualifiedName := s.builderType b
    simpleName := s.builderName b
    package := b.package.filter (· ≠ "")
    text := d.render.1 }

end BuilderStyle
end BeanBuilder
