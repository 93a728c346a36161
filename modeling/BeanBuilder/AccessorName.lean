import BeanBuilder.Text.Blank
import BeanBuilder.Text.LetterCase
import BeanBuilder.Text.Pieces

/-!
# Accessor names

An accessor name is one of four stems followed by a suffix that begins with an upper-case
letter: `getAge`, `setAge`, `hasAge`, `isAge`.  No stem is the start of another followed by an
upper-case letter, so a name has at most one reading.

From the suffix come the names of the generated builder: the field, the method that adds one
element, and the method that sets the whole value.
-/

namespace BeanBuilder

/-- The four stems. -/
inductive AccessorKind where
  | get
  | set
  | has
  | is
  deriving DecidableEq, Repr

/-- The text of a stem. -/
def AccessorKind.stem : AccessorKind → List Char
  | .get => ['g', 'e', 't']
  | .set => ['s', 'e', 't']
  | .has => ['h', 'a', 's']
  | .is => ['i', 's']

/-- Every stem, in the order in which they are tried. -/
def AccessorKind.all : List AccessorKind :=
  [.get, .set, .has, .is]

/-- An accessor name taken apart. -/
structure AccessorName where
  kind : AccessorKind
  suffix : String
  deriving DecidableEq, Repr

namespace AccessorName

/-- Whether a text begins with an upper-case letter. -/
def startsUpper : List Char → Bool
  | [] => false
  | c :: _ => Text.isUpper c

/-- The suffix of a name read with one stem. -/
def suffixAfter? (kind : AccessorKind) (name : List Char) : Option (List Char) :=
  (Text.afterStart? kind.stem name).filter startsUpper

/-- The reading of a name as an accessor name. -/
def parse? (name : String) : Option AccessorName :=
  AccessorKind.all.findSome? fun kind =>
    (suffixAfter? kind name.toList).map fun suffix => ⟨kind, String.ofList suffix⟩

/-- Whether a name is `getClass`, which every object has, or a longer name of that start. -/
def isReflective (name : String) : Bool :=
  Text.beginsWith ['g', 'e', 't', 'C', 'l', 'a', 's', 's'] name.toList

/-- Whether a name is an accessor name of one of some kinds and not reflective. -/
def reads (kinds : List AccessorKind) (name : String) : Bool :=
  !isReflective name && match parse? name with
    | some n => kinds.contains n.kind
    | none => false

/-- The kinds whose accessors answer with a value. -/
def readingKinds : List AccessorKind :=
  [.get, .has, .is]

/-- Whether a name is that of a setter. -/
def isSetter (name : String) : Bool :=
  match parse? name with
  | some n => n.kind = .set
  | none => false

/-- The suffix of an accessor name; any other name is its own suffix. -/
def suffixOf (name : String) : String :=
  match parse? name with
  | some n => n.suffix
  | none => name

end AccessorName

/-- A name with its first character in lower case. -/
def decapitalize (name : String) : String :=
  match name.toList with
  | [] => name
  | c :: rest => String.ofList (Text.lower c ++ rest)

/-- A suffix without one final `s`, unless nothing else would be left. -/
def singular (suffix : String) : String :=
  match suffix.toList.reverse with
  | 's' :: c :: rest => String.ofList (c :: rest).reverse
  | _ => suffix

/-- The name of the field behind an accessor: `firstName` for `getFirstName`. -/
def fieldName (accessor : String) : String :=
  decapitalize (AccessorName.suffixOf accessor)

/-- The name of the method that adds one element: `addTag` for `getTags`. -/
def adderName (accessor : String) : String :=
  "add" ++ singular (AccessorName.suffixOf accessor)

/-- The name of the method that sets the value: `setName` for `getName`. -/
def setterName (accessor : String) : String :=
  "set" ++ AccessorName.suffixOf accessor

/-- A simple name within a package; the unnamed package is absent or empty. -/
def qualify (package : Option String) (simpleName : String) : String :=
  match package with
  | none => simpleName
  | some p => if p = "" then simpleName else p ++ "." ++ simpleName

end BeanBuilder
