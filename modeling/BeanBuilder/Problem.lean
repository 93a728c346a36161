/-!
# Problems

A problem is what the user is told when something cannot be done: a message and named
particulars, which follow the message in brackets.
-/

namespace BeanBuilder

/-- A message with its particulars, in the order in which they are shown. -/
structure Problem where
  message : String
  particulars : List (String × String) := []
  deriving DecidableEq, Repr

namespace Problem

/-- The particulars, each as `name=value`, with commas between them. -/
def listed : List (String × String) → String
  | [] => ""
  | [(name, value)] => name ++ "=" ++ value
  | (name, value) :: rest => name ++ "=" ++ value ++ ", " ++ listed rest

/-- The message, followed by the particulars in brackets if there are any. -/
def text (p : Problem) : String :=
  if p.particulars.isEmpty then p.message
  else p.message ++ " (" ++ listed p.particulars ++ ")"

end Problem
end BeanBuilder
