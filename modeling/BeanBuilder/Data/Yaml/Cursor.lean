import BeanBuilder.Text.Pieces

/-!
# Places in a YAML text

A cursor stands before the rest of a text and knows its line and column.  Besides the line feed,
the next-line character and the line and paragraph separators end a line; a byte order mark takes
up no column.
-/

namespace BeanBuilder
namespace Yaml

/-- A place in a text with what follows it. -/
structure Cursor where
  rest : List Char
  index : Nat := 0
  line : Nat := 0
  column : Nat := 0

/-- A character that ends a line. -/
def isBreak (c : Char) : Bool :=
  c = '\n' || c = '\r' || c.toNat = 0x85 || c.toNat = 0x2028 || c.toNat = 0x2029

/-- A character that parts words: a blank, a tab or the end of a line. -/
def isGap (c : Char) : Bool :=
  c = ' ' || c = '\t' || isBreak c

/-- The characters that a text may hold. -/
def isAllowed (c : Char) : Bool :=
  let n := c.toNat
  n = 9 || n = 10 || n = 13 || (0x20 ≤ n && n ≤ 0x7e) || n = 0x85 || (0xa0 ≤ n && n ≤ 0xd7ff)
    || (0xe000 ≤ n && n ≤ 0xfffd) || 0x10000 ≤ n

/-- The characters of names of anchors, directives and tags. -/
def isNameChar (c : Char) : Bool :=
  c.isAlphanum || c = '-' || c = '_'

namespace Cursor

/-- The next character. -/
def peek? (c : Cursor) : Option Char :=
  c.rest.head?

/-- Whether the next character is a given one. -/
def isAt (c : Cursor) (expected : Char) : Bool :=
  c.peek? = some expected

/-- Whether the text ends here. -/
def atEnd (c : Cursor) : Bool :=
  c.rest.isEmpty

/-- Whether the line ends here. -/
def atLineEnd (c : Cursor) : Bool :=
  c.peek?.all isBreak

/-- Whether the line ends here or a blank follows; a tab does not count. -/
def atBlankOrEnd (c : Cursor) : Bool :=
  c.peek?.all fun x => x = ' ' || isBreak x

/-- Whether a word ends a number of characters ahead. -/
def gapAhead (c : Cursor) (n : Nat) : Bool :=
  match c.rest.drop n with
  | [] => true
  | x :: _ => isGap x

/-- The cursor behind the next character. -/
def next (c : Cursor) : Cursor :=
  match c.rest with
  | [] => c
  | x :: rest =>
    if isBreak x then { rest, index := c.index + 1, line := c.line + 1, column := 0 }
    else
      { rest
        index := c.index + 1
        line := c.line
        column := if x.toNat = 0xfeff then c.column else c.column + 1 }

/-- The cursor behind a number of characters. -/
def skip (c : Cursor) : Nat → Cursor
  | 0 => c
  | n + 1 => c.next.skip n

/-- The longest stretch of characters of a class, and the cursor behind it. -/
def span (c : Cursor) (p : Char → Bool) : List Char × Cursor :=
  let taken := c.rest.takeWhile p
  (taken, c.skip taken.length)

/-- The cursor behind all blanks. -/
def skipBlanks (c : Cursor) : Cursor :=
  (c.span (· = ' ')).2

/-- The cursor at the end of the line. -/
def skipLine (c : Cursor) : Cursor :=
  (c.span fun x => !isBreak x).2

/-- The end of the line as it counts in a text, and the cursor behind it. -/
def lineBreak (c : Cursor) : List Char × Cursor :=
  match c.rest with
  | '\r' :: '\n' :: _ => (['\n'], c.skip 2)
  | x :: _ =>
    if x.toNat = 0x2028 ∨ x.toNat = 0x2029 then ([x], c.next)
    else if isBreak x then (['\n'], c.next)
    else ([], c)
  | [] => ([], c)

/-- Whether a document marker stands here: three dashes or three dots and the end of a word. -/
def atMarker (c : Cursor) (mark : Char) : Bool :=
  c.rest.take 3 = [mark, mark, mark] && c.gapAhead 3

/-- Whether a document marker of either kind stands here. -/
def atAnyMarker (c : Cursor) : Bool :=
  c.atMarker '-' || c.atMarker '.'

end Cursor
end Yaml
end BeanBuilder
