import BeanBuilder.Text.LetterCase
import BeanBuilder.Log

/-!
# The environment of a run

The variables that settings depend on, and the working directory as it is shown in messages.
-/

namespace BeanBuilder

/-- What a run finds around it. -/
structure Environment where
  /-- The value of `BUILDERGEN_STRICT_POJO`. -/
  strictPairing : Option String := none
  /-- The value of `BUILDERGEN_OUTPUT_DIR`. -/
  outputDirectory : Option String := none
  /-- The value of `BUILDERGEN_LOG_LEVEL`. -/
  logLevel : Option String := none
  /-- The full name of the working directory. -/
  workingDirectory : String := ""
  deriving DecidableEq, Repr

namespace Environment

/-- The words that switch something on, in small letters. -/
def affirmations : List String :=
  ["1", "true", "yes"]

/-- Whether a variable switches something on. -/
def affirms (value : Option String) : Bool :=
  affirmations.contains (String.ofList ((value.getD "").toList.flatMap Text.lower))

/-- Whether the environment asks for strict pairing. -/
def asksStrict (e : Environment) : Bool :=
  affirms e.strictPairing

/-- The output directory that the environment names; an empty name counts as none. -/
def namedOutput? (e : Environment) : Option String :=
  e.outputDirectory.filter (· ≠ "")

/-- The word for the level at which a family logs unless it is told otherwise. -/
def levelWord (e : Environment) : String :=
  e.logLevel.getD "INFO"

end Environment
end BeanBuilder
