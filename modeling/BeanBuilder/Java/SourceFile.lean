import BeanBuilder.Java.Grammar
import BeanBuilder.Java.Lexer

/-!
# Java source files

A source file has a package, imports and types.  Of its classes the methods, constructors,
superclass and annotations are read; everything else has to follow the grammar and is passed over.
-/

namespace BeanBuilder
namespace Java

/-- An import of a type, of all types of a package, or of static members. -/
structure Import where
  path : String
  isStatic : Bool := false
  isWildcard : Bool := false
  deriving DecidableEq, Repr

/-- The modifiers of a declaration as far as they matter: whether it is static, and the last parts
of the names of its annotations. -/
structure Modifiers where
  isStatic : Bool := false
  annotations : List String := []
  deriving DecidableEq, Repr

/-- A method; without a result it is void. -/
structure Method where
  name : String
  modifiers : Modifiers
  result : Option JavaType
  parameters : List JavaType

/-- A class with its members in order. -/
structure ClassDeclaration where
  name : String
  modifiers : Modifiers := {}
  superclass : Option JavaType := none
  methods : List Method := []
  /-- The parameters of each constructor. -/
  constructors : List (List JavaType) := []

/-- A source file. -/
structure SourceFile where
  package : Option String := none
  imports : List Import := []
  classes : List ClassDeclaration := []

/-- Why a source is not Java: its characters are no tokens, or its tokens no source file. -/
inductive SyntaxFault where
  | tokens
  | grammar
  deriving DecidableEq, Repr

/-! ### Names and modifiers -/

/-- The parts of a name with points, and what follows it. -/
def readQualified? : (steps : Nat) → List Token → Option (List String × List Token)
  | 0, _ => none
  | steps + 1, ts => do
    let (name, ts) ← textOf? .identifier ts
    match afterText? "." ts with
    | none => return ([name], ts)
    | some ts =>
      let (names, ts) ← readQualified? steps ts
      return (name :: names, ts)

/-- A name with points, and what follows it. -/
def readName? (ts : List Token) : Option (String × List Token) :=
  (readQualified? (ts.length + 1) ts).map fun (names, ts) => (Text.joinStrings "." names, ts)

/-- The last part of the name of an annotation, and what follows the annotation. -/
def readAnnotation? (ts : List Token) : Option (String × List Token) := do
  let rest ← Grammar.after? Grammar.annotationMark ts
  let (names, _) ← readQualified? (ts.length + 1) (ts.drop 1)
  return (names.getLast?.getD "", rest)

/-- Modifiers and annotations, and what follows them. -/
def readModifiers? : (steps : Nat) → Modifiers → List Token → Option (Modifiers × List Token)
  | 0, _, _ => none
  | steps + 1, m, ts =>
    match textOf? .modifier ts with
    | some (word, ts) =>
      readModifiers? steps { m with isStatic := m.isStatic || word = "static" } ts
    | none =>
      if Grammar.annotationAhead ts then do
        let (name, ts) ← readAnnotation? ts
        readModifiers? steps { m with annotations := m.annotations ++ [name] } ts
      else some (m, ts)

/-! ### Members -/

/-- A member of a class as far as it matters. -/
inductive Member where
  | method (m : Method)
  | constructor (parameters : List JavaType)
  | other

/-- The types of parameters up to the closing bracket, and what follows it. -/
def readParameters? : (steps : Nat) → List Token → Option (List JavaType × List Token)
  | 0, _ => none
  | steps + 1, ts => do
    let ts ← Grammar.after? Grammar.variableModifiers ts
    let (type, ts) ← readType? ts
    let (isLast, ts) := match afterText? "..." ts with
      | some ts => (true, ts)
      | none => (false, ts)
    let (_, ts) ← textOf? .identifier ts
    let (dimensions, ts) := readDimensions ts
    let type := type.withDimensions dimensions
    match isLast, afterText? "," ts with
    | false, some ts =>
      let (types, ts) ← readParameters? steps ts
      return (type :: types, ts)
    | _, _ => return ([type], ← afterText? ")" ts)

/-- The types of the parameters of a method in brackets, and what follows them. -/
def readParameterList? (ts : List Token) : Option (List JavaType × List Token) := do
  let ts ← afterText? "(" ts
  match afterText? ")" ts with
  | some ts => return ([], ts)
  | none => readParameters? (ts.length + 1) ts

/-- A constructor behind its modifiers, and what follows it. -/
def readConstructor? (ts : List Token) : Option (Member × List Token) := do
  let (_, ts) ← textOf? .identifier ts
  let (parameters, ts) ← readParameterList? ts
  let ts ← Grammar.after? (Grammar.throwsList ++ .call .block) ts
  return (.constructor parameters, ts)

/-- A method without result behind `void`, and what follows it. -/
def readVoidMethod? (m : Modifiers) (ts : List Token) : Option (Member × List Token) := do
  let (name, ts) ← textOf? .identifier ts
  let (parameters, ts) ← readParameterList? ts
  let ts ← Grammar.after? (Grammar.throwsList ++ Grammar.bodyOrNone) ts
  return (.method ⟨name, m, none, parameters⟩, ts)

/-- A method behind its result type and name, and what follows it.  Dimensions behind the
parameters belong to the result. -/
def readMethod? (m : Modifiers) (result : JavaType) (name : String) (ts : List Token) :
    Option (Member × List Token) := do
  let (parameters, ts) ← readParameterList? ts
  let (dimensions, ts) := readDimensions ts
  let ts ← Grammar.after? (Grammar.throwsList ++ Grammar.bodyOrNone) ts
  return (.method ⟨name, m, some (result.withDimensions dimensions), parameters⟩, ts)

/-- A generic method or constructor, and what follows it. -/
def readGeneric? (m : Modifiers) (ts : List Token) : Option (Member × List Token) := do
  let ts ← Grammar.after? Grammar.typeParameters ts
  if Grammar.callAhead ts then readConstructor? ts
  else match afterText? "void" ts with
    | some ts => readVoidMethod? m ts
    | none =>
      let (type, ts) ← readType? ts
      let (name, ts) ← textOf? .identifier ts
      readMethod? m type name ts

/-- What follows a member that does not matter. -/
def passOver? (r : Grammar.JavaRule) (ts : List Token) : Option (Member × List Token) :=
  (Grammar.after? r ts).map fun ts => (.other, ts)

/-- A member behind its modifiers, and what follows it. -/
def readMemberRest? (m : Modifiers) (ts : List Token) : Option (Member × List Token) :=
  match afterText? "void" ts with
  | some ts => readVoidMethod? m ts
  | none =>
    if startsWith "<" ts then readGeneric? m ts
    else if Grammar.typeWordAhead ts then passOver? (.call .nestedType) ts
    else if Grammar.callAhead ts then readConstructor? ts
    else do
      let (type, ts) ← readType? ts
      let (name, ts) ← textOf? .identifier ts
      if startsWith "(" ts then readMethod? m type name ts
      else passOver? (Grammar.fieldsRest ++ .word ";") ts

/-- A member of a class, and what follows it. -/
def readMember? (ts : List Token) : Option (Member × List Token) :=
  if startsWith ";" ts || startsWith r"{" ts || Ahead.words ["static", r"{"] ts then
    passOver? Grammar.member ts
  else do
    let (m, ts) ← readModifiers? (ts.length + 1) {} ts
    readMemberRest? m ts

/-- The members of a class up to the closing brace, and what follows it. -/
def readMembers? : (steps : Nat) → List Token → Option (List Member × List Token)
  | 0, _ => none
  | steps + 1, ts =>
    match afterText? r"}" ts with
    | some ts => some ([], ts)
    | none => do
      let (member, ts) ← readMember? ts
      let (members, ts) ← readMembers? steps ts
      return (member :: members, ts)

/-! ### Types and files -/

/-- A superclass, if one is named, and what follows it. -/
def readSuperclass? (ts : List Token) : Option (Option JavaType × List Token) :=
  match afterText? "extends" ts with
  | none => some (none, ts)
  | some ts => (readType? ts).map fun (type, ts) => (some type, ts)

/-- A class behind its modifiers, and what follows it. -/
def readClass? (m : Modifiers) (ts : List Token) : Option (ClassDeclaration × List Token) := do
  let ts ← afterText? "class" ts
  let (name, ts) ← textOf? .identifier ts
  let ts ← Grammar.after? (.ifWord "<" Grammar.typeParameters) ts
  let (superclass, ts) ← readSuperclass? ts
  let ts ← Grammar.after? Grammar.implementsList ts
  let ts ← afterText? r"{" ts
  let (members, ts) ← readMembers? (ts.length + 1) ts
  let methods := members.filterMap fun
    | .method m => some m
    | _ => none
  let constructors := members.filterMap fun
    | .constructor parameters => some parameters
    | _ => none
  return ({ name, modifiers := m, superclass, methods, constructors }, ts)

/-- The classes up to the end of a file; other types are passed over. -/
def readClasses? : (steps : Nat) → List Token → Option (List ClassDeclaration)
  | 0, _ => none
  | _, [] => some []
  | steps + 1, ts =>
    match afterText? ";" ts with
    | some ts => readClasses? steps ts
    | none => do
      let (m, ts) ← readModifiers? (ts.length + 1) {} ts
      if startsWith "class" ts then
        let (c, ts) ← readClass? m ts
        let classes ← readClasses? steps ts
        return c :: classes
      else readClasses? steps (← Grammar.after? (.call .nestedType) ts)

/-- The path of an import, whether it is a wildcard, and what follows its semicolon. -/
def readImportPath? : (steps : Nat) → List Token → Option (List String × Bool × List Token)
  | 0, _ => none
  | steps + 1, ts => do
    let (name, ts) ← textOf? .identifier ts
    match afterText? "." ts with
    | none => return ([name], false, ← afterText? ";" ts)
    | some ts =>
      match afterText? "*" ts with
      | some ts => return ([name], true, ← afterText? ";" ts)
      | none =>
        let (names, isWildcard, ts) ← readImportPath? steps ts
        return (name :: names, isWildcard, ts)

/-- Imports, and what follows them. -/
def readImports? : (steps : Nat) → List Token → Option (List Import × List Token)
  | 0, _ => none
  | steps + 1, ts =>
    match afterText? "import" ts with
    | none => some ([], ts)
    | some ts => do
      let (isStatic, ts) := match afterText? "static" ts with
        | some ts => (true, ts)
        | none => (false, ts)
      let (names, isWildcard, ts) ← readImportPath? (ts.length + 1) ts
      let (imports, ts) ← readImports? steps ts
      return (⟨Text.joinStrings "." names, isStatic, isWildcard⟩ :: imports, ts)

/-- The package, if one is declared, and what follows it.  Annotations may stand before it; reading
them is an attempt, which fails without a package. -/
def readPackage? (ts : List Token) : Option (Option String × List Token) := do
  let c ← Grammar.course? (.repeated Grammar.annotationAhead (.call .annotationMark)) ts
  match afterText? "package" c.rest with
  | none => return (none, c.back)
  | some ts =>
    let (name, ts) ← readName? ts
    return (some name, ← afterText? ";" ts)

/-- The source file that some tokens make up. -/
def SourceFile.ofTokens? (ts : List Token) : Option SourceFile := do
  let (package, ts) ← readPackage? ts
  let (imports, ts) ← readImports? (ts.length + 1) ts
  let classes ← readClasses? (ts.length + 1) ts
  return { package, imports, classes }

/-- The source file of a text. -/
def SourceFile.parse (source : String) : Except SyntaxFault SourceFile :=
  match tokens? source with
  | none => .error .tokens
  | some ts =>
    match SourceFile.ofTokens? ts with
    | none => .error .grammar
    | some u => .ok u

end Java
end BeanBuilder
