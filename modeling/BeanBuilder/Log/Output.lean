import BeanBuilder.Data.Value
import BeanBuilder.Environment
import BeanBuilder.Files.Tree
import BeanBuilder.Text.Utf8

/-!
# Where log lines go

The lines of shown records go to the console and, if the setup names a file, to the end of that
file.  The file is there as soon as the setup is made, even if nothing is ever written to it.  The
path to it is straightened first, so that what it only passes through need not be there.

Setting up the log anew can fail.  If the level cannot be used, everything stays as it was; if the
file cannot be opened, the new level holds and the lines go to the console alone.
-/

namespace BeanBuilder
namespace Log

open Files

/-- The level that a value asks for; without a value the environment decides. -/
def Level.ofValue (env : Environment) : Value → Except Breakdown Level
  | .null => ofWord env.levelWord
  | .text word => ofWord word
  | .bytes _ => .error .wrongKind
  | _ => .error .missingOperation

/-- The file that a value names; a value that counts as false names none.  The names of files are
texts here, so bytes that encode no text cannot be used. -/
def fileOf (v : Value) : Except Breakdown (Option String) :=
  if v.isTruthy then
    match v with
    | .text name => .ok (some name)
    | .bytes data =>
      match Text.decodeUtf8 ⟨data.toArray⟩ with
      | .ok name => .ok (some (String.ofList name))
      | .error _ => .error .wrongValue
    | _ => .error .wrongKind
  else .ok none

/-- The files after a log file is opened, which is made if it is missing.  The file system may
refuse it for reasons that the files do not show. -/
def openFile (refused : Option OsError) (name : String) (t : Tree) : Except Breakdown Tree :=
  if Path.holdsNull name then .error .wrongValue
  else match refused with
    | some e => .error (.refused e)
    | none =>
      match t.append (Path.ofString name).straight ByteArray.empty with
      | .ok t => .ok t
      | .error e => .error (.refused e.error)

namespace Setup

/-- The setup that a process begins with, if the environment names a level. -/
def initial (env : Environment) : Except Breakdown Setup :=
  (Level.ofValue env .null).map fun level => { level }

/-- Sets up the log anew with the level and the file that two values ask for. -/
def renew (env : Environment) (refused : Option OsError) (level file : Value) (s : Setup)
    (t : Tree) : Except Breakdown Unit × Setup × Tree :=
  match Level.ofValue env level with
  | .error e => (.error e, s, t)
  | .ok level =>
    match fileOf file with
    | .error e => (.error e, { level }, t)
    | .ok none => (.ok (), { level }, t)
    | .ok (some name) =>
      match openFile refused name t with
      | .error e => (.error e, { level }, t)
      | .ok t => (.ok (), { level, file := some name }, t)

/-- The files after more lines at the end of the log file.  Lines for a file that was taken away
are lost; a file that stands in its place is taken for the one that was opened. -/
def extend (s : Setup) (lines : String) (t : Tree) : Tree :=
  match s.file with
  | none => t
  | some name =>
    match t.place? (Path.ofString name).straight with
    | .error _ => t
    | .ok place =>
      match t.fileAt? place with
      | none => t
      | some before => t.put place (.file (before ++ lines.toUTF8))

/-- The console lines for some records, and the files after them. -/
def write (s : Setup) (time : String) (records : List Record) (t : Tree) : String × Tree :=
  let lines := s.lines time records
  (lines, s.extend lines t)

end Setup
end Log
end BeanBuilder
