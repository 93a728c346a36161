import BeanBuilder.Data.Shown
import BeanBuilder.Settings.Session

/-!
# About the generator

The report on the generator: its version, its authors, and the settings that are in force, or why
there are none.
-/

namespace BeanBuilder

open Files

namespace About

/-- The version of the generator. -/
def version : String :=
  "0.1.0"

/-- Who makes the generator. -/
def authors : String :=
  "BuilderGen Team"

/-- The heading of the report. -/
def heading : String :=
  "BuilderGen Java Builder Generator\n" ++ Text.repeated "=" 40 ++ "\n"

/-- The lines on the settings in force. -/
def settingsLines (answer : SettingsAnswer) (t : Tree) : List String :=
  match answer with
  | .error e => ["Configuration Error: " ++ e.text]
  | .ok i =>
    let found := t.isPresent i.loaded.file.path
    ["Configuration: " ++ i.loaded.file.shown
        ++ (if found then "" else " (not found, using defaults)"),
      "Strict POJO Check: " ++ (Value.truth i.loaded.settings.validation.strict).shown,
      "Output Directory: " ++ i.loaded.settings.output.directory.shown]

/-- The report.  It breaks off where getting the settings breaks down. -/
def report (answer : SettingsAnswer) (t : Tree) : String :=
  match answer with
  | .error (.broken e) => heading ++ "Error getting system information: "
      ++ (SettingsError.broken e).text ++ "\n"
  | _ =>
    heading ++ Text.joinStrings "" ((["", "BuilderGen Version: " ++ version, "Author: " ++ authors]
      ++ settingsLines answer t).map (· ++ "\n"))

end About
end BeanBuilder
