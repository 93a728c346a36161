import BeanBuilder.Draft.Block
import BeanBuilder.Draft.Visibility
import BeanBuilder.Literal

/-!
# Drafts of methods

A `MethodDraft` collects the signature and the body of one method.  Its lines are kept with the
depth they have within the method, so that the method can be shown at any depth and in any
layout.

Showing a draft first finishes it: every open block is closed, the method body last.  A draft
can still be changed afterwards; its blocks are not opened again.
-/

namespace BeanBuilder
namespace Draft

/-- One method being written. -/
structure MethodDraft where
  name : String
  visibility : Visibility := .unspecified
  isStatic : Bool := false
  returnType : Option String := none
  /-- Types and names of the parameters, in order. -/
  parameters : List (String × String) := []
  /-- The lines of the body with their depths within the method, in order. -/
  lines : List (Nat × String) := []
  blocks : BlockStack := {}
  finished : Bool := false
  deriving DecidableEq, Repr

namespace MethodDraft

/-- A method without parameters and with an empty body. -/
def new? (name : String) : Except InvalidLiteral MethodDraft := do
  requireLiteral name "method"
  return { name, blocks := ({} : BlockStack).push ⟨.methodBody, name⟩ true }

/-- The number of open blocks, the body included. -/
def depth (m : MethodDraft) : Nat :=
  m.blocks.depth

/-- Adds a parameter behind the others. -/
def addParameter? (m : MethodDraft) (type name : String) : Except InvalidLiteral MethodDraft := do
  requireLiteral name "parameter"
  return { m with parameters := m.parameters ++ [(type, name)] }

/-- Adds a line at the current depth. -/
def addLine (m : MethodDraft) (line : String) : MethodDraft :=
  { m with lines := m.lines ++ [(m.depth, line)] }

/-- Adds a line that opens a block: the header and a brace. -/
def openHeaded (m : MethodDraft) (header : String) : MethodDraft :=
  { m.addLine (header ++ r" {") with blocks := m.blocks.push ⟨.nested, header⟩ }

/-- Adds a line that holds a brace alone and opens a block. -/
def openBare (m : MethodDraft) : MethodDraft :=
  { m.addLine r"{" with blocks := m.blocks.push ⟨.nested, ""⟩ }

/-- Closes the innermost block inside the body; the body itself stays open. -/
def closeBlock (m : MethodDraft) : MethodDraft :=
  match m.blocks.pop with
  | (none, _) => m
  | (some _, blocks) => { m with blocks, lines := m.lines ++ [(blocks.depth, r"}")] }

/-- The closing braces of `n` open blocks, from the inside out. -/
def closers : Nat → List (Nat × String)
  | 0 => []
  | n + 1 => (n, r"}") :: closers n

/-- Closes every open block, the body included, once. -/
def finish (m : MethodDraft) : MethodDraft :=
  if m.finished then m
  else
    { m with
      lines := m.lines ++ closers m.blocks.unwind.1.length
      blocks := m.blocks.unwind.2
      finished := true }

/-- The parameter list between its brackets. -/
def parameterText (m : MethodDraft) : String :=
  Text.joinStrings ", " (m.parameters.map fun (type, name) => type ++ " " ++ name)

/-- The return type as it is written; an absent or empty one is `void`. -/
def returnText (m : MethodDraft) : String :=
  match m.returnType with
  | none => "void"
  | some t => if t = "" then "void" else t

/-- The method head up to its parameter list. -/
def signature (m : MethodDraft) : String :=
  m.visibility.modifier ++ (if m.isStatic then "static " else "") ++ m.returnText ++ " " ++ m.name
    ++ "(" ++ m.parameterText ++ ")"

/-- Lines below one another, all shifted right by a depth. -/
def lineText (l : Layout) (outer : Nat) : List (Nat × String) → String
  | [] => ""
  | (depth, line) :: rest =>
    l.indented outer (l.indented depth line) ++ l.lineSeparator ++ lineText l outer rest

/-- The method as it stands, shifted right by a depth and with a blank line in front. -/
def text (m : MethodDraft) (l : Layout) (outer : Nat) : String :=
  l.lineSeparator ++ l.indented outer (m.signature ++ r" {") ++ l.lineSeparator
    ++ lineText l outer m.lines

/-- Finishes a method and shows it. -/
def render (m : MethodDraft) (l : Layout) (outer : Nat) : String × MethodDraft :=
  (m.finish.text l outer, m.finish)

end MethodDraft

/-- The calls that change a method draft. -/
inductive MethodCall where
  | setVisibility (visibility : Visibility)
  | setStatic (isStatic : Bool)
  | setReturnType (type : Option String)
  | addParameter (type name : String)
  | addLine (line : String)
  | openHeaded (header : String)
  | openBare
  | closeBlock
  | finish
  deriving DecidableEq, Repr

/-- What a call makes of a method draft. -/
def MethodDraft.after? (m : MethodDraft) : MethodCall → Except InvalidLiteral MethodDraft
  | .setVisibility visibility => .ok { m with visibility }
  | .setStatic isStatic => .ok { m with isStatic }
  | .setReturnType type => .ok { m with returnType := type }
  | .addParameter type name => m.addParameter? type name
  | .addLine line => .ok (m.addLine line)
  | .openHeaded header => .ok (m.openHeaded header)
  | .openBare => .ok m.openBare
  | .closeBlock => .ok m.closeBlock
  | .finish => .ok m.finish

end Draft
end BeanBuilder
