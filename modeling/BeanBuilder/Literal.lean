import BeanBuilder.Problem
import BeanBuilder.Text.Blank
import BeanBuilder.Text.Quoted

/-!
# Literals

A literal is a token that has to stand on its own in generated text: the name of a package, an
import, a class, a field, a method or a parameter.  It is usable when it is not empty and holds
no blank.  Whether it is a legal identifier is not asked.
-/

namespace BeanBuilder

/-- A text that can stand as one token. -/
def isLiteral (s : String) : Bool :=
  !s.toList.isEmpty && s.toList.all fun c => !Text.isBlank c

/-- A token that cannot be used, and the place where it was supplied. -/
structure InvalidLiteral where
  literal : Option String
  position : String
  deriving DecidableEq, Repr

namespace InvalidLiteral

/-- The problem with a token that is shown in some way; a missing place is left out. -/
def problemOf (shown position : String) : Problem where
  message := "Literals cannot be empty or contain whitespace."
  particulars :=
    ("literal", shown) :: if position = "" then [] else [("position", position)]

/-- The problem shown to the user. -/
def problem (e : InvalidLiteral) : Problem :=
  problemOf (match e.literal with
    | none => "None"
    | some s => Text.quoted s) e.position

/-- The problem in one line. -/
def text (e : InvalidLiteral) : String :=
  e.problem.text

end InvalidLiteral

/-- Accepts a usable token and refuses any other with its place. -/
def requireLiteral (s position : String) : Except InvalidLiteral Unit :=
  if isLiteral s then .ok () else .error ⟨some s, position⟩

/-- Whether a slot holds a token; a token that cannot be used is refused. -/
def literalPresent (slot : Option String) (position : String) : Except InvalidLiteral Bool :=
  match slot with
  | none => .ok false
  | some s => (requireLiteral s position).map fun _ => true

theorem requireLiteral_eq_ok_iff {s position : String} :
    requireLiteral s position = .ok () ↔ isLiteral s = true := by
  unfold requireLiteral
  split <;> simp_all

end BeanBuilder
