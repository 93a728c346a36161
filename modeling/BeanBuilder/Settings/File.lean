import BeanBuilder.Data.Json.Printer
import BeanBuilder.Data.Json.Reader
import BeanBuilder.Data.Yaml.Printer
import BeanBuilder.Data.Yaml.Reader
import BeanBuilder.Files.Tree
import BeanBuilder.Settings
import BeanBuilder.Text.Utf8

/-!
# Settings files

Settings are kept in a YAML file or a JSON file; the suffix of the file's name tells which.  A file
that is missing stands for empty settings.  Without a name the file `buildergen.yaml` of the
working directory is meant if it is there, and `buildergen.json` if not.
-/

namespace BeanBuilder

open Files

/-- A settings file: where it is and how messages show it. -/
structure SettingsFile where
  path : Path
  shown : String
  deriving DecidableEq, Repr

/-- Settings with the file that they were loaded from. -/
structure LoadedSettings where
  settings : Settings
  file : SettingsFile
  deriving Repr

namespace SettingsFile

/-- The settings file of a name. -/
def named (name : String) : SettingsFile where
  path := Path.ofString name
  shown := (Path.ofString name).text

/-- The settings file of a name in the working directory, shown with its full name. -/
def inWorkingDirectory (env : Environment) (name : String) : SettingsFile where
  path := Path.ofString name
  shown := ((Path.ofString env.workingDirectory).join name).text

/-- The settings file that is meant without a name. -/
def usual (env : Environment) (t : Tree) : SettingsFile :=
  if t.isPresent (Path.ofString "buildergen.yaml") then inWorkingDirectory env "buildergen.yaml"
  else inWorkingDirectory env "buildergen.json"

/-- The settings file that a name means; an empty name counts as none. -/
def choose (env : Environment) (t : Tree) (name : Option String) : SettingsFile :=
  match name.filter (· ≠ "") with
  | some name => named name
  | none => usual env t

/-- Whether the file holds YAML. -/
def isYaml (f : SettingsFile) : Bool :=
  let suffix := String.ofList (f.path.suffix.flatMap Text.lower)
  suffix = ".yaml" || suffix = ".yml"

/-- The value that a text holds in the format of the file. -/
def valueOf (f : SettingsFile) (text : String) : Except ReadFault Value :=
  if f.isYaml then Yaml.read text else ReadFault.orUnreadable (Json.read? text)

/-- The value in the file. -/
def value (f : SettingsFile) (t : Tree) : Except ReadFault Value := do
  let bytes ← ReadFault.orUnreadable (t.read f.path.text).toOption
  let chars ← ReadFault.orUnreadable (Text.decodeUtf8 bytes).toOption
  f.valueOf (String.ofList (Text.unifyLineEnds chars))

/-- The entries in the file; nothing at all counts as no entries. -/
def entries (f : SettingsFile) (t : Tree) : Except SettingsError Settings.Entries :=
  match f.value t with
  | .error .unreadable => .error (.unreadable f.shown)
  | .error (.broken e) => .error (.broken e)
  | .ok .null => .ok []
  | .ok root =>
    match root.fields? with
    | some fields => .ok fields
    | none => .error (.rootNoMapping f.shown)

/-- A record about the file. -/
def record (level : Log.Level) (message : String) : Log.Record :=
  ⟨level, "buildergen.utils.config", message⟩

/-- The settings that the file and the environment make, and what is logged. -/
def load (f : SettingsFile) (env : Environment) (t : Tree) :
    Except SettingsError LoadedSettings × List Log.Record :=
  let make (entries : Settings.Entries) : Except SettingsError LoadedSettings :=
    (Settings.ofEntries env entries).map fun settings => ⟨settings, f⟩
  match t.isThere? f.path with
  | .error e => (.error (.broken (.refused e)), [])
  | .ok false =>
    (make [],
      [record .debug ("Configuration file " ++ f.shown ++ " not found, using defaults")])
  | .ok true =>
    match f.entries t with
    | .error e => (.error e, [])
    | .ok entries => (make entries, [record .info ("Loaded configuration from " ++ f.shown)])

/-- The text of settings in the format of the file. -/
def textOf (f : SettingsFile) (s : Settings) : String :=
  let root := Value.record s.toEntries
  if f.isYaml then Yaml.write root else Json.write root

end SettingsFile

namespace LoadedSettings

/-- The file that settings are saved to under a name, without which it is the file that they come
from. -/
def target (l : LoadedSettings) (name : Option String) : SettingsFile :=
  match name.filter (· ≠ "") with
  | some name => .named name
  | none => l.file

/-- Saves the settings. -/
def save (l : LoadedSettings) (name : Option String) (t : Tree) :
    Except Fault Tree × List Log.Record :=
  let f := l.target name
  match t.write f.path (f.textOf l.settings).toUTF8 with
  | .error e => (.error e, [])
  | .ok t => (.ok t, [SettingsFile.record .info ("Configuration saved to " ++ f.shown)])

end LoadedSettings
end BeanBuilder
