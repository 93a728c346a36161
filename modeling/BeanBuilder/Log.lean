import BeanBuilder.Breakdown

/-!
# Log records

A record has a level, the name of the logger that made it, and a message.  Loggers form one
family below `buildergen`; the level of the family decides which records are shown.  A family
without a level of its own shows warnings and worse.

Levels are named by words.  A word that means nothing means the usual level, but a few words mean
something else than a level, and setting such a level fails.
-/

namespace BeanBuilder
namespace Log

/-- How serious a record is. -/
inductive Level where
  | unset
  | debug
  | info
  | warning
  | error
  | critical
  deriving DecidableEq, Repr

namespace Level

/-- The weight of a level; a record passes a threshold that is not heavier. -/
def weight : Level → Nat
  | .unset => 0
  | .debug => 10
  | .info => 20
  | .warning => 30
  | .error => 40
  | .critical => 50

/-- The word for a level. -/
def word : Level → String
  | .unset => "NOTSET"
  | .debug => "DEBUG"
  | .info => "INFO"
  | .warning => "WARNING"
  | .error => "ERROR"
  | .critical => "CRITICAL"

/-- The accepted words in capitals, with their levels. -/
def words : List (String × Level) :=
  [("NOTSET", .unset), ("DEBUG", .debug), ("INFO", .info), ("WARNING", .warning),
    ("WARN", .warning), ("ERROR", .error), ("CRITICAL", .critical), ("FATAL", .critical)]

/-- The words in capitals that mean something else: a text that is no level, and a mapping. -/
def otherWords : List (String × Breakdown) :=
  [("BASIC_FORMAT", .wrongValue), ("_STYLES", .wrongKind)]

/-- A letter in capitals; the dotless `ı`, the long `ſ` and the joined `st` have ASCII capitals as
well. -/
def capitals (c : Char) : List Char :=
  if c = 'ı' then ['I'] else if c = 'ſ' then ['S']
  else if c = 'ﬅ' ∨ c = 'ﬆ' then ['S', 'T'] else [c.toUpper]

/-- The level that a word names in any case; `INFO` for a word that means nothing. -/
def ofWord (s : String) : Except Breakdown Level :=
  let word := String.ofList (s.toList.flatMap capitals)
  match otherWords.lookup word with
  | some e => .error e
  | none => .ok ((words.lookup word).getD .info)

/-- The lightest records that a family of this level shows. -/
def threshold : Level → Level
  | .unset => .warning
  | level => level

/-- Whether a family of this level shows records of another level. -/
def shows (family record : Level) : Bool :=
  family.threshold.weight ≤ record.weight

end Level

/-- One message of one logger. -/
structure Record where
  level : Level
  logger : String
  message : String
  deriving DecidableEq, Repr

/-- The line for a record, with the time at which it was made. -/
def Record.line (r : Record) (time : String) : String :=
  time ++ " - " ++ r.logger ++ " - " ++ r.level.word ++ " - " ++ r.message ++ "\n"

/-- The name of the logger family. -/
def family : String :=
  "buildergen"

/-- A logger name within the family. -/
def loggerName (name : String) : String :=
  if name = family ∨ Text.beginsWith (family ++ ".").toList name.toList then name
  else family ++ "." ++ name

/-- Where shown records go: always to the console, and to a file if there is one. -/
structure Setup where
  level : Level := .info
  file : Option String := none
  deriving DecidableEq, Repr

/-- The lines that a setup shows of some records. -/
def Setup.lines (s : Setup) (time : String) (records : List Record) : String :=
  Text.joinStrings "" ((records.filter fun r => s.level.shows r.level).map fun r => r.line time)

end Log
end BeanBuilder
