import BeanBuilder.Text.Blank
import BeanBuilder.Text.Pieces

/-!
# Written types

A type is carried as text, such as `java.util.Map<String, List<Integer>>`.  This module takes
that text apart: the raw type in front of the first angle bracket, the arguments between the
first opening and the last closing bracket, and the type that one element of a container has.

Only commas outside all inner brackets part the arguments.
-/

namespace BeanBuilder
namespace TypeText

/-- A text up to its first opening angle bracket. -/
def beforeBracket (cs : List Char) : List Char :=
  cs.takeWhile (· ≠ '<')

/-- The raw type, without arguments and without blanks around it. -/
def raw (type : String) : String :=
  String.ofList (Text.trim (beforeBracket type.toList))

/-- What lies between the first opening and the last closing angle bracket, if the closing one
comes after the opening one. -/
def bracketed? (cs : List Char) : Option (List Char) :=
  match cs.dropWhile (· ≠ '<') with
  | [] => none
  | _ :: after =>
    match after.reverse.dropWhile (· ≠ '>') with
    | [] => none
    | _ :: inner => some inner.reverse

/-- How one character changes the nesting depth of angle brackets. -/
def depthAfter (depth : Int) (c : Char) : Int :=
  if c = '<' then depth + 1 else if c = '>' then depth - 1 else depth

/-- The pieces between the commas at depth zero; there is always at least one. -/
def topPieces : Int → List Char → List (List Char)
  | _, [] => [[]]
  | depth, c :: rest =>
    let depth := depthAfter depth c
    if c = ',' ∧ depth = 0 then [] :: topPieces depth rest
    else match topPieces depth rest with
      | [] => [[c]]
      | piece :: pieces => (c :: piece) :: pieces

/-- Pieces without the blanks around them; a blank last piece is no argument. -/
def trimmedPieces : List (List Char) → List (List Char)
  | [] => []
  | [piece] => if Text.trim piece = [] then [] else [Text.trim piece]
  | piece :: pieces => Text.trim piece :: trimmedPieces pieces

/-- The type arguments, inner ones kept whole. -/
def arguments (type : String) : List String :=
  match bracketed? type.toList with
  | none => []
  | some inner => (trimmedPieces (topPieces 0 inner)).map String.ofList

/-- The type that a wildcard accepts: the bound below it, if it has one. -/
def lowerBound? (afterMark : List Char) : Option String :=
  match Text.afterStart? ['s', 'u', 'p', 'e', 'r', ' '] (Text.trim afterMark) with
  | none => none
  | some bound =>
    let bound := Text.trim bound
    if bound = [] then none else some (String.ofList bound)

/-- The type of an element that can be added to a container of this type.  A container with no
or several arguments has none, nor has one whose only argument is a wildcard without a lower
bound. -/
def element? (type : String) : Option String :=
  match arguments type with
  | [argument] =>
    match argument.toList with
    | '?' :: afterMark => lowerBound? afterMark
    | _ => some argument
  | _ => none

end TypeText
end BeanBuilder
