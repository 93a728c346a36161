import BeanBuilder.Accessor
import BeanBuilder.OrderedMap
import BeanBuilder.TypeText

/-!
# Members of a builder

Every `get` accessor without parameters becomes a member of the builder.  Members fall into
three categories by their declared type: collections, primitives and references.  A builder
lists them in this order of categories, and within a category in the order of the accessors.

The category decides the initial value of the member's field; a collection also has a type that
one element of it takes, if its type tells.
-/

namespace BeanBuilder

/-- How a member is stored. -/
inductive Category where
  | collection
  | primitive
  | reference
  deriving DecidableEq, Repr

namespace Category

/-- The word for a category. -/
def word : Category → String
  | .collection => "collection"
  | .primitive => "primitive"
  | .reference => "reference"

/-- The categories in the order in which a builder lists them. -/
def all : List Category :=
  [.collection, .primitive, .reference]

end Category

/-- The raw types that count as sequences, as sets and as strings. -/
structure Containers where
  sequences : List String := ["java.util.List", "List"]
  sets : List String := ["java.util.Set", "Set"]
  strings : List String := ["java.lang.String", "String"]
  deriving DecidableEq, Repr

namespace Containers

/-- Whether a type is a sequence. -/
def isSequence (c : Containers) (type : String) : Bool :=
  c.sequences.contains (TypeText.raw type)

/-- Whether a type is a set. -/
def isSet (c : Containers) (type : String) : Bool :=
  c.sets.contains (TypeText.raw type)

/-- The category of a type; a container is a collection whatever else it may be. -/
def category (c : Containers) (type : String) : Category :=
  if c.isSequence type || c.isSet type then .collection
  else if Accessor.isPrimitive type then .primitive
  else .reference

/-- The initial value of a field: an empty container, an empty string or `null`.  A primitive
field has none and keeps its natural zero. -/
def initialValue (c : Containers) (type : String) : Category → Option String
  | .collection =>
    if c.isSequence type then some "new java.util.ArrayList<>()"
    else some "new java.util.HashSet<>()"
  | .primitive => none
  | .reference =>
    if c.strings.contains (TypeText.raw type) then some "\"\"" else some "null"

end Containers

/-- One member of a builder with all that is derived from its accessor. -/
structure Member where
  accessor : String
  field : String
  type : String
  category : Category
  /-- The type of one element, where elements can be added. -/
  element : Option String := none
  initial : Option String := none
  deriving DecidableEq, Repr

/-- Whether an accessor becomes a member: a `get` accessor other than `getClass`, without
parameters, with a return type and not ignored. -/
def Accessor.isCandidate (a : Accessor) : Bool :=
  AccessorName.reads [.get] a.name && a.parameterTypes.isEmpty && a.returnType.isSome && !a.ignored

/-- The names of the candidates with their types, by category. -/
structure Classification where
  collections : OrderedMap String String := {}
  primitives : OrderedMap String String := {}
  references : OrderedMap String String := {}
  deriving DecidableEq, Repr

namespace Classification

/-- The candidates of one category. -/
def select (c : Classification) : Category → OrderedMap String String
  | .collection => c.collections
  | .primitive => c.primitives
  | .reference => c.references

/-- The classification with one more candidate. -/
def add (c : Classification) (category : Category) (name type : String) : Classification :=
  match category with
  | .collection => { c with collections := c.collections.insert name type }
  | .primitive => { c with primitives := c.primitives.insert name type }
  | .reference => { c with references := c.references.insert name type }

/-- All candidates: collections, then primitives, then references. -/
def merged (c : Classification) : OrderedMap String String :=
  (c.collections.union c.primitives).union c.references

/-- The number of candidates. -/
def size (c : Classification) : Nat :=
  c.collections.size + c.primitives.size + c.references.size

end Classification

namespace Containers

/-- The classification after one more accessor. -/
def classifyOne (c : Containers) (sofar : Classification) (a : Accessor) : Classification :=
  match a.returnType with
  | some type => if a.isCandidate then sofar.add (c.category type) a.name type else sofar
  | none => sofar

/-- Sorts the candidates among some accessors into categories. -/
def classify (c : Containers) (accessors : List Accessor) : Classification :=
  accessors.foldl c.classifyOne {}

/-- The member made of an accessor. -/
def member (c : Containers) (accessor type : String) (category : Category) : Member where
  accessor := accessor
  field := fieldName accessor
  type := type
  category := category
  element := if category = .collection then TypeText.element? type else none
  initial := c.initialValue type category

/-- The members of a classification, in the order in which a builder lists them. -/
def members (c : Containers) (k : Classification) : List Member :=
  Category.all.flatMap fun category =>
    (k.select category).toList.map fun (accessor, type) => c.member accessor type category

/-- The members of a bean by the names of their fields.  Where two accessors lead to one field,
the later one takes the place of the earlier one. -/
def fields (c : Containers) (b : Bean) : OrderedMap String Member :=
  OrderedMap.ofList ((c.members (c.classify b.accessors)).map fun m => (m.field, m))

/-- The members that the builder of a bean has. -/
def builderMembers (c : Containers) (b : Bean) : List Member :=
  (c.fields b).values

end Containers
end BeanBuilder
