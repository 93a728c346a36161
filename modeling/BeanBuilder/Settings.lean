import BeanBuilder.Breakdown
import BeanBuilder.Builder
import BeanBuilder.Data.Value
import BeanBuilder.Environment
import BeanBuilder.Problem

/-!
# Settings

Settings have four sections: how builders look, what is asked of beans, where sources go, and what
is logged.  They come from a mapping, in which every section and every key may be missing, and
from the environment.

Only the line separator, the two names of generated code and the truth values are looked at when
settings are made.  Everything else passes through as the value it is, and a style of builders can
be had from the settings only if the values in it are texts.
-/

namespace BeanBuilder

/-- What ends a line of generated text. -/
inductive LineEnd where
  | feed
  | returnFeed
  deriving DecidableEq, Repr

namespace LineEnd

/-- The characters of a line end. -/
def text : LineEnd → String
  | .feed => "\n"
  | .returnFeed => "\r\n"

/-- The line end that a value spells. -/
def ofValue? : Value → Option LineEnd
  | .text s => if s = "\n" then some .feed else if s = "\r\n" then some .returnFeed else none
  | _ => none

theorem ofValue?_text (e : LineEnd) : ofValue? (.text e.text) = some e := by
  cases e <;> rfl

end LineEnd

/-- The looks of builders. -/
structure GenerationSettings where
  lineEnd : LineEnd := .feed
  indent : Value := .text "\t"
  builderSuffix : Value := .text "Builder"
  factoryName : Value := .text "create"
  deriving Repr

/-- The demands on beans. -/
structure ValidationSettings where
  strict : Bool := false
  requireConstructor : Bool := true
  deriving DecidableEq, Repr

/-- The place for sources. -/
structure OutputSettings where
  directory : Value := .text "generated-sources"
  extension : Value := .text ".java"
  deriving Repr

/-- What is logged, and whether to a file. -/
structure LoggingSettings where
  level : Value := .text "INFO"
  toFile : Bool := false
  file : Value := .text "buildergen.log"
  deriving Repr

/-- All settings. -/
structure Settings where
  generation : GenerationSettings := {}
  validation : ValidationSettings := {}
  output : OutputSettings := {}
  logging : LoggingSettings := {}
  deriving Repr

/-- Why settings could not be made. -/
inductive SettingsError where
  /-- Looking for the file, or reading its value, breaks down. -/
  | broken (e : Breakdown)
  /-- The file could not be read, or does not hold a value. -/
  | unreadable (file : String)
  | rootNoMapping (file : String)
  | sectionNoMapping (name : String)
  | lineSeparator
  | emptyName
  deriving DecidableEq, Repr

namespace SettingsError

/-- The problem shown to the user.  Why a file is no value of its format is not told, and neither is
what broke down. -/
def problem : SettingsError → Problem
  | .broken _ => ⟨"...", []⟩
  | .unreadable file => ⟨"Failed to load configuration from " ++ file ++ ": ...", []⟩
  | .rootNoMapping file => ⟨"Configuration root in " ++ file ++ " must be a mapping", []⟩
  | .sectionNoMapping name => ⟨"Section '" ++ name ++ "' must be a mapping", [("key", name)]⟩
  | .lineSeparator =>
    ⟨"line_separator must be '\\n' or '\\r\\n'", [("key", "generation.line_separator")]⟩
  | .emptyName =>
    ⟨"builder_suffix and factory_method_name cannot be empty", [("key", "generation")]⟩

/-- The problem in one line. -/
def text (e : SettingsError) : String :=
  e.problem.text

end SettingsError

namespace Settings

/-- Values under names. -/
abbrev Entries := List (String × Value)

/-- The entries of a section; a section that counts as false is empty. -/
def section? (entries : Entries) (name : String) : Except SettingsError Entries :=
  match (Value.field? entries name).filter Value.isTruthy with
  | none => .ok []
  | some found =>
    match found.fields? with
    | some fields => .ok fields
    | none => .error (.sectionNoMapping name)

/-- The value of a key, or what holds without it. -/
def valueOr (entries : Entries) (key : String) (otherwise : Value) : Value :=
  (Value.field? entries key).getD otherwise

/-- The truth value of a key, or what holds without it. -/
def truthOr (entries : Entries) (key : String) (otherwise : Bool) : Bool :=
  (valueOr entries key (.truth otherwise)).isTruthy

/-- The section on the looks of builders. -/
def generationOf (entries : Entries) : Except SettingsError GenerationSettings := do
  let d : GenerationSettings := {}
  let found ← section? entries "generation"
  let g (lineEnd : LineEnd) : GenerationSettings :=
    { lineEnd
      indent := valueOr found "indent" d.indent
      builderSuffix := valueOr found "builder_suffix" d.builderSuffix
      factoryName := valueOr found "factory_method_name" d.factoryName }
  match LineEnd.ofValue? (valueOr found "line_separator" (.text d.lineEnd.text)) with
  | none => throw .lineSeparator
  | some lineEnd =>
    if (g lineEnd).builderSuffix.isTruthy ∧ (g lineEnd).factoryName.isTruthy then return g lineEnd
    else throw .emptyName

/-- The section on the demands on beans; the environment can make them strict. -/
def validationOf (env : Environment) (entries : Entries) :
    Except SettingsError ValidationSettings := do
  let d : ValidationSettings := {}
  let found ← section? entries "validation"
  return {
    strict := env.asksStrict || truthOr found "strict_pojo_check" d.strict
    requireConstructor := truthOr found "require_no_arg_constructor" d.requireConstructor }

/-- The section on the place for sources; the environment can name the directory. -/
def outputOf (env : Environment) (entries : Entries) : Except SettingsError OutputSettings := do
  let d : OutputSettings := {}
  let found ← section? entries "output"
  return {
    directory := (env.namedOutput?.map Value.text).getD (valueOr found "output_dir" d.directory)
    extension := valueOr found "file_extension" d.extension }

/-- The section on what is logged. -/
def loggingOf (entries : Entries) : Except SettingsError LoggingSettings := do
  let d : LoggingSettings := {}
  let found ← section? entries "logging"
  return {
    level := valueOr found "level" d.level
    toFile := truthOr found "enable_file_logging" d.toFile
    file := valueOr found "log_file" d.file }

/-- The settings that a mapping and the environment make. -/
def ofEntries (env : Environment) (entries : Entries) : Except SettingsError Settings := do
  let generation ← generationOf entries
  let validation ← validationOf env entries
  let output ← outputOf env entries
  let logging ← loggingOf entries
  return { generation, validation, output, logging }

/-- The settings as a mapping with all sections and keys. -/
def toEntries (s : Settings) : Entries :=
  [("generation", .record
      [("line_separator", .text s.generation.lineEnd.text), ("indent", s.generation.indent),
        ("builder_suffix", s.generation.builderSuffix),
        ("factory_method_name", s.generation.factoryName)]),
    ("validation", .record
      [("strict_pojo_check", .truth s.validation.strict),
        ("require_no_arg_constructor", .truth s.validation.requireConstructor)]),
    ("output", .record
      [("output_dir", s.output.directory), ("file_extension", s.output.extension)]),
    ("logging", .record
      [("level", s.logging.level), ("enable_file_logging", .truth s.logging.toFile),
        ("log_file", s.logging.file)])]

/-- The settings with strict pairing asked for. -/
def makeStrict (s : Settings) : Settings :=
  { s with validation.strict := true }

end Settings

/-- The style of builders, if it is made of texts. -/
def GenerationSettings.style? (g : GenerationSettings) : Option BuilderStyle := do
  let indentUnit ← g.indent.text?
  let builderSuffix ← g.builderSuffix.text?
  let factoryName ← g.factoryName.text?
  return { layout := { lineSeparator := g.lineEnd.text, indentUnit }, builderSuffix, factoryName }
end BeanBuilder
