import BeanBuilder.Diagnostic
import BeanBuilder.Files.Walk
import BeanBuilder.Java.Catalog
import BeanBuilder.Problem
import BeanBuilder.Text.Utf8

/-!
# Reading source files

Files and directories are read into a catalog, which is linked at the end.  A directory stands for
all Java files below it.  A file that cannot be read, is not in UTF-8, or is not Java is reported
and passed over; it leaves no trace in the catalog.
-/

namespace BeanBuilder
namespace Java

open Files

/-- Why a source was not read.  What is wrong with its syntax is not told. -/
inductive SourceFault where
  | unreadable (e : Fault)
  | notUtf8 (e : Text.Utf8Fault)
  | syntactic (e : SyntaxFault)

namespace SourceFault

/-- What happened. -/
def message : SourceFault → String
  | .unreadable e => "Cannot read source: " ++ e.text
  | .notUtf8 e => "Source is not valid UTF-8: " ++ e.text
  | .syntactic .tokens => "Java lexer error: ..."
  | .syntactic .grammar => "Java syntax error: ..."

/-- The problem shown to the user, with the name of the file if there is one. -/
def problem (e : SourceFault) (file : Option String) : Problem :=
  ⟨e.message, (file.map fun name => ("file", name)).toList⟩

end SourceFault

namespace Catalog

/-- The text of a source file. -/
def readText (t : Tree) (name : String) : Except SourceFault String :=
  match t.read name with
  | .error e => .error (.unreadable e)
  | .ok bytes =>
    match Text.decodeUtf8 bytes with
    | .error e => .error (.notUtf8 e)
    | .ok chars => .ok (String.ofList (Text.unifyLineEnds chars))

/-- The catalog with the classes of a file, and their places. -/
def readFile (c : Catalog) (t : Tree) (name : String) :
    Except SourceFault (List TypeId × Catalog) :=
  match readText t name with
  | .error e => .error e
  | .ok source =>
    match c.parse source with
    | .error e => .error (.syntactic e)
    | .ok r => .ok r

/-- What reading some files comes to. -/
structure Reading where
  catalog : Catalog
  diagnostics : List Diagnostic := []
  records : List Log.Record := []

/-- Reads one file: what it comes to has the diagnostic or the record of this file alone. -/
def readNext (c : Catalog) (t : Tree) (name : String) : Reading :=
  match c.readFile t name with
  | .error e =>
    let text := (e.problem (some name)).text
    { catalog := c
      diagnostics := [⟨.sourceParseFailure, text, some name⟩]
      records := [record .warning text] }
  | .ok (ids, c) => { catalog := c, records := [readRecord ids.length (some name)] }

/-- Reads files one after another. -/
def readFiles (c : Catalog) (t : Tree) : List String → Reading
  | [] => { catalog := c }
  | name :: rest =>
    let first := c.readNext t name
    let others := first.catalog.readFiles t rest
    { catalog := others.catalog
      diagnostics := first.diagnostics ++ others.diagnostics
      records := first.records ++ others.records }

/-- The files that paths stand for. -/
def expandAll (t : Tree) (paths : List String) : List String :=
  paths.flatMap (t.expand ".java")

/-- Reads files and directories and links the catalog. -/
def readPaths (c : Catalog) (t : Tree) (paths : List String) : Reading :=
  let r := c.readFiles t (expandAll t paths)
  { r with catalog := r.catalog.link, records := r.records ++ r.catalog.linkRecords }

end Catalog
end Java
end BeanBuilder
