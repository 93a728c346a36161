import BeanBuilder.CommandLine.Run
import Std.Time

/-!
# The program

The program takes a picture of the files that its command line can reach, carries the command line
out on the picture, and brings to disk what has changed in it.
-/

namespace BeanBuilder
namespace Program

open Files CommandLine

/-- How the program is called, shown when a command line asks for it or cannot be read. -/
def usage : String :=
  "usage: buildergen [-h] [--config FILE] [--log-level LEVEL] generate [-h] [-o DIRECTORY]\n" ++
  "                  [--strict] [--all-types] [--json] PATH [PATH ...]\n" ++
  "       buildergen [-h] [--config FILE] [--log-level LEVEL] info [-h]\n"

/-- The environment that the program runs in. -/
def environment : IO Environment := do
  return {
    strictPairing := ← IO.getEnv "BUILDERGEN_STRICT_POJO"
    outputDirectory := ← IO.getEnv "BUILDERGEN_OUTPUT_DIR"
    logLevel := ← IO.getEnv "BUILDERGEN_LOG_LEVEL"
    workingDirectory := (← IO.currentDir).toString }

/-- The time for log lines. -/
def time : IO String := do
  return (← Std.Time.PlainDateTime.now).format "uuuu-MM-dd HH:mm:ss,SSS"

/-- The name of a place on disk, seen from the working directory. -/
def diskName (place : Place) : String :=
  match place with
  | "/" :: names => "/" ++ Text.joinStrings "/" names
  | names => Text.joinStrings "/" ("." :: names)

/-- Adds what stands at a place on disk to a picture, with everything below it if asked to. -/
partial def addPlace (below : Bool) (t : Tree) (place : Place) : IO Tree := do
  let path := (← IO.currentDir) / diskName place
  if ← path.isDir then
    let t := if Tree.isGiven place then t else t.put place .directory
    if below then
      let found ← try path.readDir catch _ => pure #[]
      found.foldlM (fun t entry => addPlace below t (place ++ [entry.fileName])) t
    else return t
  else
    try return t.put place (.file (← IO.FS.readBinFile path)) catch _ => return t

/-- Adds the places that a path leads through to a picture, and everything below its end. -/
def addPath (t : Tree) (p : Path) : IO Tree := do
  let mut t := t
  let mut place := Tree.start p
  for name in p.parts do
    place := if name = ".." then Tree.above place else place ++ [name]
    t ← addPlace false t place
  addPlace true t place

/-- Adds the paths that some texts denote to a picture. -/
def addNamed (t : Tree) (names : List String) : IO Tree :=
  names.foldlM (fun t name => addPath t (Path.ofString name)) t

/-- The texts for paths in an invocation, and the usual settings files. -/
def namedBy (i : Invocation) : List String :=
  let own := match i.command with
    | .generate g => g.paths ++ g.outputDirectory.toList
    | .info => []
  ["buildergen.yaml", "buildergen.json"] ++ i.settingsFile.toList ++ own

/-- The texts for paths in the settings that an invocation puts in force. -/
def namedBySettings (env : Environment) (i : Invocation) (t : Tree) : List String :=
  match ((SettingsFile.choose env t i.settingsFile).load env t).1 with
  | .ok found =>
    found.settings.output.directory.text?.toList
      ++ ((Log.fileOf found.settings.logging.file).toOption.getD none).toList
  | .error _ => []

/-- A picture of the files that an invocation can reach. -/
def picture (env : Environment) (i : Invocation) : IO Tree := do
  let t ← addNamed {} (namedBy i)
  addNamed t (namedBySettings env i t)

/-- Brings an entry to disk unless it is in the old picture. -/
def keep (old : Tree) (place : Place) (entry : Entry) : IO Unit := do
  let path := (← IO.currentDir) / diskName place
  match entry, old.find? place with
  | .directory, some .directory => return
  | .directory, _ => IO.FS.createDirAll path
  | .file bytes, before =>
    if let some (.file known) := before then
      if known.data = bytes.data then return
    let draft := path.addExtension "tmp"
    IO.FS.writeBinFile draft bytes
    IO.FS.rename draft path

/-- Brings what is new in a picture to disk, directories before what lies in them. -/
def keepChanges (old new : Tree) : IO Unit := do
  let entries := new.entries.mergeSort fun a b => a.1.length ≤ b.1.length
  for (place, entry) in entries do
    keep old place entry

/-- The message about an error that nothing is prepared for. -/
def breakdownText : Breakdown → String
  | .wrongKind => "a value is of a wrong kind"
  | .missingOperation => "a value does not have an operation"
  | .wrongValue => "a value cannot be used"
  | .missingWord => "a word is not known"
  | .missingCharacter => "a text is too short"
  | .refused e => Fault.text ⟨e, []⟩

/-- Shows an error that nothing is prepared for. -/
def showBreakdown (e : Breakdown) : IO Unit :=
  IO.eprintln ("buildergen: " ++ breakdownText e)

/-- Shows how a run ended and returns its exit code. -/
def finish : RunEnd → IO Nat
  | .usage .help => do IO.print usage; return UsageEnd.help.code
  | .usage .misuse => do IO.eprint usage; return UsageEnd.misuse.code
  | .finished r => do IO.eprint r.errors; IO.print r.output; return r.code
  | .broken e r => do
    IO.eprint r.errors
    IO.print r.output
    showBreakdown e
    return r.code

/-- Carries out a command line. -/
def perform (words : List String) : IO Nat := do
  let env ← environment
  match Session.fresh env with
  | .error e =>
    showBreakdown e
    return 1
  | .ok session =>
    let before ← match Invocation.ofWords words with
      | .ok i => picture env i
      | .error _ => pure {}
    let w : Surroundings := { environment := env, time := ← time }
    let (result, _, after) := run w session before words
    keepChanges before after
    finish result

end Program
end BeanBuilder

def main (args : List String) : IO UInt32 := do
  return UInt32.ofNat (← BeanBuilder.Program.perform args)
