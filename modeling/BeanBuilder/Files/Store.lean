import BeanBuilder.Destination
import BeanBuilder.Files.Tree

/-!
# Storing generated sources in directories

A directory store lays source files out by package: `org.example.PersonBuilder` goes to
`org/example/PersonBuilder.java` below the output directory.

A write makes the missing directories, fills a new temporary file next to the target, and puts it
in the target's place in one step.  If any step fails the temporary file is removed, so a failed
write leaves every file as it was; directories that were made on the way stay.

The file system may refuse a step for reasons that the tree does not show, such as a full disk.
`Trouble` says which steps are refused.
-/

namespace BeanBuilder
namespace Files

/-- The steps of a write that the file system may refuse. -/
inductive Step where
  /-- Making a directory; it is tried again when the directories above it have been made. -/
  | makeDirectory (path : Path) (again : Bool)
  | makeTemporary
  | fill
  | replace
  deriving DecidableEq, Repr

/-- The errors with which steps are refused. -/
abbrev Trouble := Step → Option OsError

/-- No step is refused. -/
def noTrouble : Trouble :=
  fun _ => none

namespace Tree

/-- Makes one directory. -/
def makeDirectory (t : Tree) (p : Path) : Except OsError Tree := do
  let place ← t.place? p
  match t.find? place with
  | some _ => throw .exists
  | none => return t.put place .directory

/-- Makes one directory, unless the step is refused. -/
def tryDirectory (trouble : Trouble) (t : Tree) (p : Path) (again : Bool) : Except OsError Tree :=
  match trouble (.makeDirectory p again) with
  | some e => .error e
  | none => t.makeDirectory p

/-- What an attempt to make a directory comes to; that it is there already is no fault. -/
def settleDirectory (t : Tree) (p : Path) (attempt : Except OsError Tree) :
    Except Fault Unit × Tree :=
  match attempt with
  | .ok t => (.ok (), t)
  | .error e =>
    if e ≠ .noEntry ∧ t.isDirectory p then (.ok (), t) else (.error ⟨e, [.named p.text]⟩, t)

/-- Makes a directory and the missing directories above it, as many levels up as given. -/
def makeDirectories (trouble : Trouble) (t : Tree) : (levels : Nat) → Path →
    Except Fault Unit × Tree
  | 0, p => settleDirectory t p (tryDirectory trouble t p false)
  | levels + 1, p =>
    match tryDirectory trouble t p false with
    | .error .noEntry =>
      if p.parent = p then (.error ⟨.noEntry, [.named p.text]⟩, t)
      else match makeDirectories trouble t levels p.parent with
        | (.error e, t) => (.error e, t)
        | (.ok (), t) => settleDirectory t p (tryDirectory trouble t p true)
    | attempt => settleDirectory t p attempt

/-- The name of a temporary file by its number. -/
def temporaryName (n : Nat) : String :=
  let digits := Nat.toDigits 10 n
  ".buildergen-" ++ String.ofList (List.replicate (8 - digits.length) '0' ++ digits) ++ ".tmp"

/-- The first of some numbers whose temporary file does not exist in a directory yet. -/
def freshNumber (t : Tree) (directory : Place) : (tries : Nat) → Nat → Nat
  | 0, n => n
  | tries + 1, n =>
    if (t.find? (directory ++ [temporaryName n])).isSome then t.freshNumber directory tries (n + 1)
    else n

/-- A place in a directory for a temporary file. -/
def freshPlace (t : Tree) (directory : Place) : Place :=
  directory ++ [temporaryName (t.freshNumber directory t.entries.length 0)]

/-- The place for a temporary file in the directory that a path leads to. -/
def temporaryPlace (trouble : Trouble) (t : Tree) (directory : Path) : Except OsError Place := do
  if let some e := trouble .makeTemporary then throw e
  let place ← t.place? directory
  if directory.text.utf8ByteSize + 1 + (temporaryName 0).utf8ByteSize > 4095 then
    throw .nameTooLong
  return t.freshPlace place

/-- The place that a file may be moved to: no directory, and no path that ends in two dots. -/
def placeToReplace (trouble : Trouble) (t : Tree) (target : Path) : Except OsError Place := do
  if let some e := trouble .replace then throw e
  if target.parts = [] ∨ target.name = ".." then throw .busy
  let place ← t.place? target
  if t.isDirectoryAt place then throw .isDirectory
  return place

/-- Puts bytes in the place of a file by way of a temporary file next to it. -/
def replaceFile (trouble : Trouble) (t : Tree) (target : Path) (bytes : ByteArray) :
    Except Fault Unit × Tree :=
  match temporaryPlace trouble t target.parent with
  | .error e => (.error ⟨e, [.temporary]⟩, t)
  | .ok temporary =>
    let made := t.put temporary (.file ByteArray.empty)
    match trouble .fill with
    | some e => (.error ⟨e, []⟩, made.remove temporary)
    | none =>
      let filled := made.put temporary (.file bytes)
      match placeToReplace trouble filled target with
      | .error e => (.error ⟨e, [.temporary, .named target.text]⟩, filled.remove temporary)
      | .ok place => (.ok (), (filled.remove temporary).put place (.file bytes))

end Tree

/-- An output directory and the ending of the files in it. -/
structure Store where
  directory : String
  extension : String := ".java"
  deriving DecidableEq, Repr

namespace Store

/-- The names of the directories and of the file for a qualified name. -/
def segments (s : Store) (qualifiedName : String) : List String :=
  let parts := Text.cutString '.' qualifiedName
  parts.dropLast ++ [parts.getLast?.getD "" ++ s.extension]

/-- The path of the file for a qualified name. -/
def pathFor (s : Store) (qualifiedName : String) : Path :=
  (s.segments qualifiedName).foldl Path.join (Path.ofString s.directory)

/-- Stores a text under a qualified name. -/
def write (s : Store) (trouble : Trouble) (qualifiedName text : String) (t : Tree) :
    Except WriteFailure Unit × Tree :=
  let target := s.pathFor qualifiedName
  let fail (e : Fault) : Except WriteFailure Unit := .error ⟨qualifiedName, e.text⟩
  match Tree.makeDirectories trouble t target.parent.parts.length target.parent with
  | (.error e, t) => (fail e, t)
  | (.ok (), t) =>
    match Tree.replaceFile trouble t target text.toUTF8 with
    | (.error e, t) => (fail e, t)
    | (.ok (), t) => (.ok (), t)

/-- The files after a write that breaks off at a null character in the path, nothing for a write
that comes to an answer.  In the name of the file the character shows only when the file is moved
to its place, so the directories are made by then. -/
def brokenOff? (s : Store) (trouble : Trouble) (qualifiedName : String) (t : Tree) : Option Tree :=
  let target := s.pathFor qualifiedName
  if Path.holdsNull target.parent.text then some t
  else if Path.holdsNull target.name then
    match Tree.makeDirectories trouble t target.parent.parts.length target.parent with
    | (.error _, _) => none
    | (.ok (), t) =>
      match t.temporaryPlace trouble target.parent, trouble .fill with
      | .ok _, none => some t
      | _, _ => none
  else none

/-- The store as a destination of a round, with the steps that are refused by the names. -/
def destination (s : Store) (trouble : String → Trouble := fun _ => noTrouble) :
    Destination Tree where
  write qualifiedName := s.write (trouble qualifiedName) qualifiedName
  records qualifiedName := [⟨.debug, "buildergen.sink", "Wrote " ++ (s.pathFor qualifiedName).text⟩]

end Store
end Files
end BeanBuilder
