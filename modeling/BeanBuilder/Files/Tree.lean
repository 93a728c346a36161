import BeanBuilder.Files.Fault
import BeanBuilder.Files.Path

/-!
# File trees

A file tree says what stands at every place: a file with its bytes, a directory, or nothing.  A
place is the list of names that lead to it from the working directory; the places of absolute
paths begin with a slash.  The working directory, the directories above it and the root are
always directories.

Requests follow a path name by name.  Every place on the way has to be a directory, two dots lead
one level up, and no name may be longer than 255 bytes nor a whole path longer than 4095.
-/

namespace BeanBuilder
namespace Files

/-- What stands at a place. -/
inductive Entry where
  | file (bytes : ByteArray)
  | directory

/-- The names that lead to an entry. -/
abbrev Place := List String

/-- The entries of a tree by their places. -/
structure Tree where
  entries : List (Place × Entry) := []

namespace Tree

/-- Whether a place is the working directory, one above it, or the root. -/
def isGiven (place : Place) : Bool :=
  place = ["/"] || place.all (· = "..")

/-- What stands at a place. -/
def find? (t : Tree) (place : Place) : Option Entry :=
  if isGiven place then some .directory else t.entries.lookup place

/-- Whether a place holds a directory. -/
def isDirectoryAt (t : Tree) (place : Place) : Bool :=
  match t.find? place with
  | some .directory => true
  | _ => false

/-- The bytes of the file at a place. -/
def fileAt? (t : Tree) (place : Place) : Option ByteArray :=
  match t.find? place with
  | some (.file bytes) => some bytes
  | _ => none

/-- The tree without what stands at a place. -/
def remove (t : Tree) (place : Place) : Tree where
  entries := t.entries.filter fun e => e.1 ≠ place

/-- The tree with an entry at a place. -/
def put (t : Tree) (place : Place) (entry : Entry) : Tree where
  entries := (place, entry) :: (t.remove place).entries

/-- The tree with directories at a place and on the way to it. -/
def putDirectories (t : Tree) : (done rest : Place) → Tree
  | _, [] => t
  | done, name :: rest =>
    let place := done ++ [name]
    let t := if (t.find? place).isNone then t.put place .directory else t
    t.putDirectories place rest

/-- The tree with a file at a place, and directories on the way to it. -/
def putFile (t : Tree) (place : Place) (bytes : ByteArray) : Tree :=
  (t.putDirectories [] place.dropLast).put place (.file bytes)

/-- The place above a place. -/
def above (place : Place) : Place :=
  if place = ["/"] then place
  else if place.all (· = "..") then place ++ [".."]
  else place.dropLast

/-- The place that names lead to from another place. -/
def follow (t : Tree) : Place → List String → Except OsError Place
  | place, [] => .ok place
  | place, name :: rest =>
    match t.find? place with
    | none => .error .noEntry
    | some (.file _) => .error .notDirectory
    | some .directory =>
      if name.utf8ByteSize > 255 then .error .nameTooLong
      else if name = ".." then t.follow (above place) rest
      else t.follow (place ++ [name]) rest

/-- Where a path begins. -/
def start (p : Path) : Place :=
  if p.root = "" then [] else ["/"]

/-- The place that a path leads to, whether or not something stands there. -/
def place? (t : Tree) (p : Path) : Except OsError Place :=
  if p.text.utf8ByteSize > 4095 then .error .nameTooLong
  else t.follow (start p) p.parts

/-- What stands where a path leads to. -/
def entry? (t : Tree) (p : Path) : Except OsError Entry := do
  let place ← t.place? p
  match t.find? place with
  | some entry => return entry
  | none => throw .noEntry

/-- Whether a path leads to a directory. -/
def isDirectory (t : Tree) (p : Path) : Bool :=
  match t.entry? p with
  | .ok .directory => true
  | _ => false

/-- Whether a path leads to anything. -/
def isPresent (t : Tree) (p : Path) : Bool :=
  match t.entry? p with
  | .ok _ => true
  | .error _ => false

/-- Whether a path leads to anything, if the file system can tell. -/
def isThere? (t : Tree) (p : Path) : Except OsError Bool :=
  match t.entry? p with
  | .ok _ => .ok true
  | .error e => if e = .noEntry ∨ e = .notDirectory then .ok false else .error e

/-- Whether a text asks for a directory: it ends with a slash or with a dot behind one. -/
def asksDirectory (s : String) : Bool :=
  Text.finishesWith ['/'] s.toList || Text.finishesWith ['/', '.'] s.toList

/-- The bytes of the file that a text names. -/
def read (t : Tree) (name : String) : Except Fault ByteArray :=
  let refuse (e : OsError) : Except Fault ByteArray := .error ⟨e, [.named name]⟩
  if name = "" then refuse .noEntry
  else match t.entry? (Path.ofString name) with
    | .error e => refuse e
    | .ok .directory => refuse .isDirectory
    | .ok (.file bytes) => if asksDirectory name then refuse .notDirectory else .ok bytes

/-- The place for writing a file, when its directory is there. -/
def placeToWrite (t : Tree) (p : Path) : Except OsError Place := do
  let place ← t.place? p
  match t.find? place with
  | some .directory => throw .isDirectory
  | some (.file _) => return place
  | none => if t.isDirectoryAt place.dropLast then return place else throw .noEntry

/-- The tree after writing a file in place. -/
def write (t : Tree) (p : Path) (bytes : ByteArray) : Except Fault Tree :=
  match t.placeToWrite p with
  | .ok place => .ok (t.put place (.file bytes))
  | .error e => .error ⟨e, [.named p.text]⟩

/-- The tree after writing at the end of a file, which is made if it is missing. -/
def append (t : Tree) (p : Path) (bytes : ByteArray) : Except Fault Tree :=
  match t.placeToWrite p with
  | .ok place =>
    let before := (t.fileAt? place).getD ByteArray.empty
    .ok (t.put place (.file (before ++ bytes)))
  | .error e => .error ⟨e, [.named p.text]⟩

end Tree
end Files
end BeanBuilder
