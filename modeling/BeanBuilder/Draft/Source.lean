import BeanBuilder.Draft.Method

/-!
# Drafts of source files

A `SourceDraft` is the text of one source file while it is written from top to bottom: the
package line, imports, a class header, fields and methods.  Every line is indented by the number
of blocks that are open around it, and showing the draft closes whatever is still open.

A call whose names cannot be used is refused as a whole and leaves the draft as it was.
-/

namespace BeanBuilder
namespace Draft

/-- One source file being written. -/
structure SourceDraft where
  layout : Layout := {}
  text : String := ""
  blocks : BlockStack := {}
  deriving DecidableEq, Repr

namespace SourceDraft

/-- The number of open blocks. -/
def depth (d : SourceDraft) : Nat :=
  d.blocks.depth

/-- The draft with more text at its end. -/
def append (d : SourceDraft) (text : String) : SourceDraft :=
  { d with text := d.text ++ text }

/-- The draft with more text at its end, indented by the current depth. -/
def appendIndented (d : SourceDraft) (text : String) : SourceDraft :=
  d.append (d.layout.indented d.depth text)

/-- The draft with the end of a statement. -/
def endStatement (d : SourceDraft) : SourceDraft :=
  d.append (";" ++ d.layout.lineSeparator)

/-- The draft with an opening brace and one more open block. -/
def openBrace (d : SourceDraft) (kind : BlockKind) (header : String) : SourceDraft :=
  { d.append (r" {" ++ d.layout.lineSeparator) with blocks := d.blocks.push ⟨kind, header⟩ }

/-- The package line and a blank line; nothing for the unnamed package. -/
def definePackage? (d : SourceDraft) (name : Option String) : Except InvalidLiteral SourceDraft :=
  match name with
  | none => .ok d
  | some name => do
    if name = "" then return d
    requireLiteral name "package"
    return ((d.append ("package " ++ name)).endStatement).append d.layout.lineSeparator

/-- An import; nothing for an absent name. -/
def addImport? (d : SourceDraft) (name : Option String) : Except InvalidLiteral SourceDraft :=
  match name with
  | none => .ok d
  | some name => do
    requireLiteral name "import"
    return (d.appendIndented ("import " ++ name)).endStatement

/-- The header of a class with a blank line in front; its block is open afterwards. -/
def defineClass? (d : SourceDraft) (visibility : Visibility) (name : String)
    (superclass : Option String) : Except InvalidLiteral SourceDraft := do
  requireLiteral name "class"
  let header := visibility.modifier ++ "class " ++ name
  let extended ← literalPresent superclass "superclass"
  let header := if extended then header ++ " extends " ++ superclass.getD "" else header
  return ((d.append d.layout.lineSeparator).appendIndented header).openBrace .classBody header

/-- A field; the initial value is left out when there is none. -/
def addField? (d : SourceDraft) (visibility : Visibility) (type name : String)
    (initial : Option String) : Except InvalidLiteral SourceDraft := do
  requireLiteral name "field"
  let line := visibility.modifier ++ type ++ " " ++ name
  let line := match initial with
    | none => line
    | some value => line ++ " = " ++ value
  return (d.appendIndented line).endStatement

/-- A method, finished and shown at the current depth. -/
def addMethod (d : SourceDraft) (m : MethodDraft) : SourceDraft :=
  d.append (m.render d.layout d.depth).1

/-- A line as it is given. -/
def addLine (d : SourceDraft) (line : String) : SourceDraft :=
  (d.appendIndented line).append d.layout.lineSeparator

/-- A header with an opening brace; its block is open afterwards. -/
def openBlock (d : SourceDraft) (header : String) : SourceDraft :=
  (d.appendIndented header).openBrace .custom header

/-- The closing brace of the innermost block; nothing when no block is open.  The brace of the
outermost block ends the text and has no line end. -/
def closeBlock (d : SourceDraft) : SourceDraft :=
  match d.blocks.pop with
  | (none, _) => d
  | (some _, blocks) =>
    let closed := ({ d with blocks } : SourceDraft).appendIndented r"}"
    if closed.depth = 0 then closed else closed.append d.layout.lineSeparator

/-- The draft after a number of closing braces. -/
def closeBlocks (d : SourceDraft) : Nat → SourceDraft
  | 0 => d
  | n + 1 => closeBlocks d.closeBlock n

/-- The draft with every open block closed. -/
def closeAll (d : SourceDraft) : SourceDraft :=
  d.closeBlocks d.depth

/-- Closes what is open and answers with the whole text. -/
def render (d : SourceDraft) : String × SourceDraft :=
  (d.closeAll.text, d.closeAll)

end SourceDraft

/-- The calls that change a source draft, methods apart. -/
inductive SourceCall where
  | definePackage (name : Option String)
  | addImport (name : Option String)
  | defineClass (visibility : Visibility) (name : String) (superclass : Option String)
  | addField (visibility : Visibility) (type name : String) (initial : Option String)
  | addLine (line : String)
  | openBlock (header : String)
  | closeBlock
  deriving DecidableEq, Repr

/-- What a call makes of a source draft. -/
def SourceDraft.after? (d : SourceDraft) : SourceCall → Except InvalidLiteral SourceDraft
  | .definePackage name => d.definePackage? name
  | .addImport name => d.addImport? name
  | .defineClass visibility name superclass => d.defineClass? visibility name superclass
  | .addField visibility type name initial => d.addField? visibility type name initial
  | .addLine line => .ok (d.addLine line)
  | .openBlock header => .ok (d.openBlock header)
  | .closeBlock => .ok d.closeBlock

end Draft
end BeanBuilder
