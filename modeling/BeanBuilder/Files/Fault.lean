import BeanBuilder.Data.Value
import BeanBuilder.Text.Quoted

/-!
# Faults of the file system

A request to the file system fails with a number and a phrase, and names the files that it was
about.  A temporary file has no stable name, so it is shown as `TMP`.
-/

namespace BeanBuilder
namespace Files

/-- Why a request to the file system failed. -/
inductive OsError where
  | notPermitted
  | noEntry
  | inputOutput
  | accessDenied
  | busy
  | exists
  | notDirectory
  | isDirectory
  | noSpace
  | nameTooLong
  deriving DecidableEq, Repr

namespace OsError

/-- The number of an error. -/
def number : OsError → Nat
  | .notPermitted => 1
  | .noEntry => 2
  | .inputOutput => 5
  | .accessDenied => 13
  | .busy => 16
  | .exists => 17
  | .notDirectory => 20
  | .isDirectory => 21
  | .noSpace => 28
  | .nameTooLong => 36

/-- The phrase for an error. -/
def phrase : OsError → String
  | .notPermitted => "Operation not permitted"
  | .noEntry => "No such file or directory"
  | .inputOutput => "Input/output error"
  | .accessDenied => "Permission denied"
  | .busy => "Device or resource busy"
  | .exists => "File exists"
  | .notDirectory => "Not a directory"
  | .isDirectory => "Is a directory"
  | .noSpace => "No space left on device"
  | .nameTooLong => "File name too long"

end OsError

/-- A file that a request was about. -/
inductive Operand where
  | named (path : String)
  | temporary
  deriving DecidableEq, Repr

/-- The name of a file in quotes. -/
def Operand.text : Operand → String
  | .named path => Text.quoted path
  | .temporary => "'TMP'"

/-- A failed request: the error and the files that it was about, at most two. -/
structure Fault where
  error : OsError
  operands : List Operand := []
  deriving DecidableEq, Repr

/-- The fault in one line. -/
def Fault.text (e : Fault) : String :=
  let files := Text.joinStrings " -> " (e.operands.map Operand.text)
  "[Errno " ++ Value.wholeText e.error.number ++ "] " ++ e.error.phrase
    ++ if e.operands.isEmpty then "" else ": " ++ files

end Files
end BeanBuilder
