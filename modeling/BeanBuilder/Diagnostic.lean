/-!
# Diagnostics

A diagnostic reports why no builder was made of one type, or why one file could not be read.
It does not stop the work on the others.
-/

namespace BeanBuilder

/-- What went wrong. -/
inductive DiagnosticKind where
  | missingConstructor
  | notAPojo
  | invalidLiteral
  | sinkWriteFailure
  | sourceParseFailure
  deriving DecidableEq, Repr

/-- The word for a kind of diagnostic. -/
def DiagnosticKind.word : DiagnosticKind → String
  | .missingConstructor => "MissingConstructor"
  | .notAPojo => "NotAPojo"
  | .invalidLiteral => "InvalidLiteral"
  | .sinkWriteFailure => "SinkWriteFailure"
  | .sourceParseFailure => "SourceParseFailure"

/-- A report, with the type or file that it is about if there is one. -/
structure Diagnostic where
  kind : DiagnosticKind
  message : String
  subject : Option String := none
  deriving DecidableEq, Repr

namespace Diagnostic

/-- The subject, if it has a name that is not empty. -/
def namedSubject? (d : Diagnostic) : Option String :=
  d.subject.filter (· ≠ "")

/-- The report in one line. -/
def text (d : Diagnostic) : String :=
  match d.namedSubject? with
  | some subject => "[" ++ d.kind.word ++ "] " ++ subject ++ ": " ++ d.message
  | none => "[" ++ d.kind.word ++ "] " ++ d.message

end Diagnostic
end BeanBuilder
