import BeanBuilder.Files.Tree

/-!
# Walking a directory

A walk visits a directory, and then its subdirectories one after another, each with all that lies
below it.  What a directory holds is listed in whatever order it happens to have.  The walk puts
the subdirectories in order by name before it goes on to them, and the files of every directory
when it comes there.
-/

namespace BeanBuilder
namespace Files

/-- What directories list: the names in them, with what stands there. -/
abbrev Listing := Place → List (String × Entry)

/-- Names in order with one more, which comes in front of those that are not before it. -/
def putInOrder (name : String) : List String → List String
  | [] => [name]
  | other :: rest =>
    if name ≤ other then name :: other :: rest else other :: putInOrder name rest

/-- Names in alphabetical order. -/
def inOrder (names : List String) : List String :=
  names.foldr putInOrder []

namespace Listing

/-- The files in a directory. -/
def files (list : Listing) (directory : Place) : List String :=
  (list directory).filterMap fun (name, entry) =>
    match entry with
    | .file _ => some name
    | .directory => none

/-- The subdirectories of a directory. -/
def directories (list : Listing) (directory : Place) : List String :=
  (list directory).filterMap fun (name, entry) =>
    match entry with
    | .file _ => none
    | .directory => some name

/-- The rounds of a walk, as many levels down as given: each directory with the files in it, named
by the way down to it. -/
def rounds (list : Listing) : (levels : Nat) → Place → List (Place × List String)
  | 0, _ => []
  | levels + 1, directory =>
    ([], list.files directory) ::
      (inOrder (list.directories directory)).flatMap fun name =>
        (list.rounds levels (directory ++ [name])).map fun (below, files) => (name :: below, files)

/-- The files that a walk finds whose names have an ending, by the ways down to them. -/
def walk (list : Listing) (ending : String) (levels : Nat) (directory : Place) : List Place :=
  (list.rounds levels directory).flatMap fun (below, files) =>
    ((inOrder files).filter fun name => Text.finishesWith ending.toList name.toList).map
      fun name => below ++ [name]

end Listing

/-- Whether a name leads from a directory to something in it. -/
def leadsDown (name : String) : Bool :=
  name ≠ "/" && name ≠ ".."

/-- The name under which a place lies directly in a directory. -/
def nameIn? : (directory place : Place) → Option String
  | [], [name] => if leadsDown name then some name else none
  | d :: ds, name :: rest => if d = name then nameIn? ds rest else none
  | _, _ => none

namespace Tree

/-- What the directories of a tree list. -/
def listing (t : Tree) : Listing := fun directory =>
  let names := (t.entries.filterMap fun e => nameIn? directory e.1).eraseDups
  names.filterMap fun name => (t.find? (directory ++ [name])).map fun entry => (name, entry)

/-- The most names that lead to an entry. -/
def height (t : Tree) : Nat :=
  t.entries.foldr (fun e levels => max e.1.length levels) 0

/-- The files below a directory whose names have an ending, in the order of a walk. -/
def walk (t : Tree) (ending : String) (directory : Place) : List Place :=
  t.listing.walk ending t.height directory

/-- The text for a place below the directory that a text names. -/
def nameBelow (directory : String) (names : Place) : String :=
  let rest := Text.joinStrings "/" names
  if Text.finishesWith ['/'] directory.toList then directory ++ rest
  else directory ++ "/" ++ rest

/-- The files that a text stands for: those below it for a directory, else itself. -/
def expand (t : Tree) (ending : String) (name : String) : List String :=
  if name = "" then [name]
  else match t.place? (Path.ofString name) with
    | .error _ => [name]
    | .ok place =>
      if t.isDirectoryAt place then (t.walk ending place).map (nameBelow name) else [name]

end Tree
end Files
end BeanBuilder
