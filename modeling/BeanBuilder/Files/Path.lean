import BeanBuilder.Text.Pieces

/-!
# Paths

A path is a root, which is empty for a path relative to the working directory, and the names of
its parts.  Reading a path drops empty parts and parts that are a single dot; two dots stay.
Joining a path with an absolute one starts again from there.
-/

namespace BeanBuilder
namespace Files

/-- A path without empty parts and single dots. -/
structure Path where
  root : String := ""
  parts : List String := []
  deriving DecidableEq, Repr

namespace Path

/-- Whether a text holds the null character, which no name of a file can hold. -/
def holdsNull (s : String) : Bool :=
  s.toList.contains '\x00'

/-- The root that a text begins with: exactly two slashes are a root of their own. -/
def rootOf : List Char → String
  | '/' :: '/' :: '/' :: _ => "/"
  | '/' :: '/' :: _ => "//"
  | '/' :: _ => "/"
  | _ => ""

/-- Whether a part of a text names something: it is not empty and not a single dot. -/
def isNamed (part : List Char) : Bool :=
  part ≠ [] && part ≠ ['.']

/-- The names between the slashes of a text. -/
def namesOf (text : List Char) : List String :=
  ((Text.cutAt '/' text).filter isNamed).map String.ofList

/-- The path that a text denotes. -/
def ofString (s : String) : Path where
  root := rootOf s.toList
  parts := namesOf s.toList

/-- A path continued by the path that a text denotes. -/
def join (p : Path) (s : String) : Path :=
  let q := ofString s
  if q.root = "" then { p with parts := p.parts ++ q.parts } else q

/-- The path as a text; the working directory itself is a dot. -/
def text (p : Path) : String :=
  if p.root = "" ∧ p.parts = [] then "." else p.root ++ Text.joinStrings "/" p.parts

/-- The parts that are left when two dots take back the part before them, `done` holding the parts
in front, last part first.  Dots with nothing to take back stay. -/
def takeBack : (done : List String) → List String → List String
  | done, [] => done.reverse
  | done, part :: rest =>
    if part = ".." ∧ done.head?.any (· ≠ "..") then takeBack done.tail rest
    else takeBack (part :: done) rest

/-- The path without dots that lead back to a place it came through, whether or not that place is
there.  Nothing lies above the root. -/
def straight (p : Path) : Path :=
  let parts := takeBack [] p.parts
  { p with parts := if p.root = "" then parts else parts.dropWhile (· = "..") }

/-- The directory that a path lies in; a path without parts lies in itself. -/
def parent (p : Path) : Path :=
  { p with parts := p.parts.dropLast }

/-- The last part. -/
def name (p : Path) : String :=
  p.parts.getLast?.getD ""

/-- What follows the last dot of the last part, with the dot; a dot at either end of that part
begins no suffix. -/
def suffix (p : Path) : List Char :=
  let back := p.name.toList.reverse
  let tail := back.takeWhile (· ≠ '.')
  let front := (back.drop tail.length).drop 1
  if tail.isEmpty ∨ tail.length = back.length ∨ front.isEmpty then []
  else '.' :: tail.reverse

end Path
end Files
end BeanBuilder
