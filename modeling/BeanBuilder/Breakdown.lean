import BeanBuilder.Files.Fault

/-!
# Breakdowns

Settings are taken over as the values that they are, and names of files as the texts that they are.
Whether they can be used shows where they are used, and nothing is prepared for one that cannot:
such an error is no diagnostic, and it ends the run that meets it.
-/

namespace BeanBuilder

open Files

/-- An error that nothing is prepared for. -/
inductive Breakdown where
  /-- A value of one kind stands where another kind is needed. -/
  | wrongKind
  /-- An operation is asked of a value of a kind that does not have it. -/
  | missingOperation
  /-- A value of the right kind is none of those that can be used. -/
  | wrongValue
  /-- A word is looked up that is not there. -/
  | missingWord
  /-- A text ends where another character is looked at. -/
  | missingCharacter
  /-- The file system refuses what a run depends on. -/
  | refused (e : OsError)
  deriving DecidableEq, Repr

/-- Why a text gives no value in some format. -/
inductive ReadFault where
  /-- It is no text of the format, which is told. -/
  | unreadable
  | broken (e : Breakdown)
  deriving DecidableEq, Repr

/-- A result that is told to be missing. -/
def ReadFault.orUnreadable {α : Type} : Option α → Except ReadFault α
  | some a => .ok a
  | none => .error .unreadable

end BeanBuilder
