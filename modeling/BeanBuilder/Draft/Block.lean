import BeanBuilder.Text.Pieces

/-!
# Open blocks

Text that is being written has a stack of open blocks, and the number of open blocks is the
depth at which the next line is indented.  Blocks at the bottom of the stack can be protected:
`pop` leaves them alone and only `unwind` closes them.
-/

namespace BeanBuilder
namespace Draft

/-- What a block is a block of. -/
inductive BlockKind where
  | classBody
  | custom
  | methodBody
  | nested
  deriving DecidableEq, Repr

/-- The word for a kind of block. -/
def BlockKind.word : BlockKind → String
  | .classBody => "class"
  | .custom => "custom"
  | .methodBody => "method"
  | .nested => "nested"

/-- An open block and the text that opened it. -/
structure Block where
  kind : BlockKind
  header : String := ""
  deriving DecidableEq, Repr

/-- The open blocks, innermost first, and how many at the bottom are protected. -/
structure BlockStack where
  blocks : List Block := []
  guarded : Nat := 0
  deriving DecidableEq, Repr

namespace BlockStack

/-- The number of open blocks. -/
def depth (s : BlockStack) : Nat :=
  s.blocks.length

/-- Opens a block; a protected one also protects everything below it. -/
def push (s : BlockStack) (b : Block) (isProtected : Bool := false) : BlockStack where
  blocks := b :: s.blocks
  guarded := if isProtected then s.depth + 1 else s.guarded

/-- Closes the innermost block, if it is not protected. -/
def pop (s : BlockStack) : Option Block × BlockStack :=
  match s.blocks with
  | [] => (none, s)
  | b :: rest => if s.depth ≤ s.guarded then (none, s) else (some b, { s with blocks := rest })

/-- The innermost open block. -/
def peek (s : BlockStack) : Option Block :=
  s.blocks.head?

/-- Closes every block, protected ones too, and answers with them from the inside out. -/
def unwind (s : BlockStack) : List Block × BlockStack :=
  (s.blocks, {})

@[simp] theorem depth_empty : ({} : BlockStack).depth = 0 := rfl

@[simp] theorem depth_push (s : BlockStack) (b : Block) (p : Bool) :
    (s.push b p).depth = s.depth + 1 := rfl

end BlockStack

/-- The blanks in front of a line at a depth; a depth below zero counts as zero. -/
def indentation (unit : String) (depth : Int) : String :=
  Text.repeated unit depth.toNat

/-- How lines are ended and indented. -/
structure Layout where
  lineSeparator : String := "\n"
  indentUnit : String := "\t"
  deriving DecidableEq, Repr

/-- A text at a depth. -/
def Layout.indented (l : Layout) (depth : Nat) (text : String) : String :=
  indentation l.indentUnit depth ++ text

end Draft
end BeanBuilder
