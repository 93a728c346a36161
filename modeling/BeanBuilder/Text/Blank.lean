/-!
# Blank characters

A blank is a character of white space: the ASCII separators, the line and paragraph
separators and the spaces of every width.  The zero-width characters are not blank.
Trimming removes blanks from both ends of a text.
-/

namespace BeanBuilder
namespace Text

/-- White space, in any script. -/
def isBlank (c : Char) : Bool :=
  let n := c.toNat
  (9 ≤ n && n ≤ 13) || (0x1c ≤ n && n ≤ 0x20) || n == 0x85 || n == 0xa0 || n == 0x1680 ||
    (0x2000 ≤ n && n ≤ 0x200a) || n == 0x2028 || n == 0x2029 || n == 0x202f || n == 0x205f ||
    n == 0x3000

/-- A text without the blanks at its start. -/
def trimStart (cs : List Char) : List Char :=
  cs.dropWhile isBlank

/-- A text without the blanks at its end. -/
def trimEnd (cs : List Char) : List Char :=
  (cs.reverse.dropWhile isBlank).reverse

/-- A text without the blanks at either end. -/
def trim (cs : List Char) : List Char :=
  trimEnd (trimStart cs)

@[simp] theorem trim_nil : trim [] = [] := rfl

end Text
end BeanBuilder
