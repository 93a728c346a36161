import BeanBuilder.Java.Token
import BeanBuilder.Text.Pieces

/-!
# Java types

A type is a basic type or a named one, with some array dimensions.  The name of a type is a path
of segments, each of which may have type arguments.

Types are written with their names resolved: an unqualified name may stand for a qualified one,
which depends on the imports of the source it stands in.  Segments of qualified names stand for
themselves.
-/

namespace BeanBuilder
namespace Java

mutual

/-- A type. -/
inductive JavaType where
  | basic (name : String) (dimensions : Nat)
  | named (path : TypePath) (dimensions : Nat)

/-- The name of a type, segment by segment. -/
inductive TypePath where
  | last (name : String) (arguments : List TypeArgument)
  | outer (name : String) (arguments : List TypeArgument) (inner : TypePath)

/-- An argument of a generic type. -/
inductive TypeArgument where
  | any
  | exact (type : JavaType)
  | upper (bound : JavaType)
  | lower (bound : JavaType)

end

/-- What an unqualified name stands for. -/
abbrev Resolve := String → String

/-- The brackets of array dimensions. -/
def dimensionText (dimensions : Nat) : String :=
  Text.repeated "[]" dimensions

mutual

/-- A type as it is written, its names resolved. -/
def JavaType.render (resolve : Resolve) : JavaType → String
  | .basic name dimensions => name ++ dimensionText dimensions
  | .named path dimensions => path.render resolve resolve ++ dimensionText dimensions

/-- A path as it is written.  Its name is resolved by `resolveHead` if it has no segments further
in, and the names in its arguments by `resolve`. -/
def TypePath.render (resolve resolveHead : Resolve) : TypePath → String
  | .last name arguments => resolveHead name ++ argumentsText resolve arguments
  | .outer name arguments inner =>
    name ++ argumentsText resolve arguments ++ "." ++ inner.render resolve id

/-- The arguments of a segment in angle brackets, nothing if there are none. -/
def argumentsText (resolve : Resolve) : List TypeArgument → String
  | [] => ""
  | a :: rest => "<" ++ a.render resolve ++ furtherText resolve rest ++ ">"

/-- Further arguments, each behind a comma. -/
def furtherText (resolve : Resolve) : List TypeArgument → String
  | [] => ""
  | a :: rest => ", " ++ a.render resolve ++ furtherText resolve rest

/-- An argument as it is written. -/
def TypeArgument.render (resolve : Resolve) : TypeArgument → String
  | .any => "?"
  | .exact type => type.render resolve
  | .upper bound => "? extends " ++ bound.render resolve
  | .lower bound => "? super " ++ bound.render resolve

end

/-- A type with more array dimensions. -/
def JavaType.withDimensions (more : Nat) : JavaType → JavaType
  | .basic name dimensions => .basic name (dimensions + more)
  | .named path dimensions => .named path (dimensions + more)

/-! ### Reading types -/

/-- What follows a token with a given text. -/
def afterText? (text : String) : List Token → Option (List Token)
  | t :: rest => if t.text = text then some rest else none
  | [] => none

/-- Whether the next token has a given text. -/
def startsWith (text : String) (ts : List Token) : Bool :=
  (afterText? text ts).isSome

/-- The text of the next token, if it is of a given kind, and what follows it. -/
def textOf? (kind : TokenKind) : List Token → Option (String × List Token)
  | t :: rest => if t.kind = kind then some (t.text, rest) else none
  | [] => none

/-- Array dimensions, and what follows them. -/
def readDimensions : List Token → Nat × List Token
  | a :: b :: rest =>
    if a.text = "[" ∧ b.text = "]" then
      let (n, rest) := readDimensions rest
      (n + 1, rest)
    else (0, a :: b :: rest)
  | ts => (0, ts)

mutual

/-- A path of segments, and what follows it. -/
def readPath? : (calls : Nat) → List Token → Option (TypePath × List Token)
  | 0, _ => none
  | calls + 1, ts => do
    let (name, ts) ← textOf? .identifier ts
    let (arguments, ts) ←
      match afterText? "<" ts with
      | some ts => readArguments? calls ts
      | none => pure ([], ts)
    match afterText? "." ts with
    | some ts =>
      let (inner, ts) ← readPath? calls ts
      return (.outer name arguments inner, ts)
    | none => return (.last name arguments, ts)

/-- Arguments up to the closing bracket, and what follows it. -/
def readArguments? : (calls : Nat) → List Token → Option (List TypeArgument × List Token)
  | 0, _ => none
  | calls + 1, ts => do
    let (argument, ts) ← readArgument? calls ts
    match afterText? ">" ts with
    | some ts => return ([argument], ts)
    | none =>
      let (arguments, ts) ← readArguments? calls (← afterText? "," ts)
      return (argument :: arguments, ts)

/-- One argument, and what follows it. -/
def readArgument? : (calls : Nat) → List Token → Option (TypeArgument × List Token)
  | 0, _ => none
  | calls + 1, ts =>
    match afterText? "?" ts with
    | none => (readReference? calls ts).map fun (type, ts) => (.exact type, ts)
    | some ts =>
      match afterText? "extends" ts, afterText? "super" ts with
      | some ts, _ => (readReference? calls ts).map fun (type, ts) => (.upper type, ts)
      | _, some ts => (readReference? calls ts).map fun (type, ts) => (.lower type, ts)
      | none, none => some (.any, ts)

/-- A type that values refer to: a path, or an array of any type. -/
def readReference? : (calls : Nat) → List Token → Option (JavaType × List Token)
  | 0, _ => none
  | calls + 1, ts =>
    match textOf? .basicType ts with
    | some (name, ts) =>
      let (dimensions, ts) := readDimensions ts
      if dimensions = 0 then none else some (.basic name dimensions, ts)
    | none => do
      let (path, ts) ← readPath? calls ts
      let (dimensions, ts) := readDimensions ts
      return (.named path dimensions, ts)

end

/-- The number of calls that is always enough to read a type. -/
def typeCalls (ts : List Token) : Nat :=
  3 * ts.length + 4

/-- A type that values refer to, and what follows it. -/
def readReferenceType? (ts : List Token) : Option (JavaType × List Token) :=
  readReference? (typeCalls ts) ts

/-- Any type, and what follows it. -/
def readType? (ts : List Token) : Option (JavaType × List Token) :=
  match textOf? .basicType ts with
  | some (name, ts) =>
    let (dimensions, ts) := readDimensions ts
    some (.basic name dimensions, ts)
  | none => readReferenceType? ts

/-- A path that is no array, and what follows it. -/
def readTypePath? (ts : List Token) : Option (TypePath × List Token) :=
  readPath? (typeCalls ts) ts

/-- Type arguments in angle brackets, and what follows them. -/
def readTypeArguments? (ts : List Token) : Option (List TypeArgument × List Token) := do
  readArguments? (typeCalls ts) (← afterText? "<" ts)

end Java
end BeanBuilder
