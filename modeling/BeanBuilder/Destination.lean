import BeanBuilder.Log
import BeanBuilder.OrderedMap
import BeanBuilder.Problem

/-!
# Destinations of generated sources

A destination takes the text of a source file under the qualified name of its type.  It has a
state, and a write either succeeds or fails with a reason; a failed write may change the state
too.  The memory destination keeps the texts in an ordered map and never fails.
-/

namespace BeanBuilder

/-- A source file that could not be stored. -/
structure WriteFailure where
  qualifiedName : String
  reason : String := ""
  deriving DecidableEq, Repr

namespace WriteFailure

/-- The problem shown to the user. -/
def problem (e : WriteFailure) : Problem where
  message :=
    "Cannot create source class '" ++ e.qualifiedName ++ "'" ++
      if e.reason = "" then "" else ": " ++ e.reason
  particulars := [("type", e.qualifiedName)]

/-- The problem in one line. -/
def text (e : WriteFailure) : String :=
  e.problem.text

end WriteFailure

/-- A place that takes source files and has a state of type `σ`. -/
structure Destination (σ : Type) where
  /-- Stores a text under a qualified name. -/
  write : (qualifiedName text : String) → σ → Except WriteFailure Unit × σ
  /-- What is logged of a write that succeeded. -/
  records : (qualifiedName : String) → List Log.Record := fun _ => []

namespace Destination

/-- Keeps every text in memory, the last one written under each name. -/
def memory : Destination (OrderedMap String String) where
  write qualifiedName text kept := (.ok (), kept.insert qualifiedName text)

end Destination
end BeanBuilder
