import BeanBuilder.Text.Blank
import BeanBuilder.Text.Digit
import BeanBuilder.Text.Pieces

/-!
# Numerals

Whole numbers as they are written in texts.  Blanks may stand around a number, a sign before it,
and single underscores between its digits, which may come from any script.  In base two, eight and
sixteen a zero and a letter may mark the base.

A text is put into ASCII first, unless it is ASCII already; only the white space of ASCII then
counts as blank.
-/

namespace BeanBuilder
namespace Text

/-- A character in ASCII: blanks of every width become spaces, and the digits of every script
become those of ASCII. -/
def asciiChar? (c : Char) : Option Char :=
  if c.toNat < 127 then some c
  else if isBlank c then some ' '
  else (decimalValue? c).map fun d => Char.ofNat (48 + d)

/-- A text in ASCII, if it has nothing but ASCII, blanks and digits. -/
def inAscii? (cs : List Char) : Option (List Char) :=
  if cs.all fun c => c.toNat < 128 then some cs else cs.mapM asciiChar?

/-- The white space of ASCII without its separators of information. -/
def isPlainBlank (c : Char) : Bool :=
  c = ' ' || (9 ≤ c.toNat && c.toNat ≤ 13)

/-- A text in ASCII without the white space at either end. -/
def numeral? (cs : List Char) : Option (List Char) :=
  (inAscii? cs).map fun cs =>
    ((cs.dropWhile isPlainBlank).reverse.dropWhile isPlainBlank).reverse

/-- Whether a text begins with a minus sign, and the text without its sign. -/
def takeSign : List Char → Bool × List Char
  | '-' :: rest => (true, rest)
  | '+' :: rest => (false, rest)
  | cs => (false, cs)

/-- The letters that mark a base behind a zero. -/
def baseMarks (base : Nat) : List Char :=
  match base with
  | 2 => ['b', 'B']
  | 8 => ['o', 'O']
  | 16 => ['x', 'X']
  | _ => []

/-- The most digits that a decimal number may have. -/
def digitLimit : Nat :=
  4300

/-- The number that digits stand for in a base. -/
def digitsValue? (base : Nat) (digits : List Char) : Option Nat :=
  digits.foldlM (fun n c =>
    (hexValue? c).bind fun d => if d < base then some (n * base + d) else none) 0

/-- The number that digits with single underscores between them stand for in a base. -/
def groupedValue? (base : Nat) (cs : List Char) : Option Nat :=
  let groups := cutAt '_' cs
  let digits := groups.flatten
  if groups.any List.isEmpty ∨ (base = 10 ∧ digits.length > digitLimit) then none
  else digitsValue? base digits

/-- A text behind the mark of a base, if it begins with one; an underscore may follow the mark. -/
def behindBaseMark (base : Nat) (cs : List Char) : List Char :=
  match cs with
  | '0' :: mark :: rest =>
    if (baseMarks base).contains mark then
      match rest with
      | '_' :: more => more
      | _ => rest
    else cs
  | _ => cs

/-- The whole number that a text stands for in a base. -/
def wholeNumber? (base : Nat) (cs : List Char) : Option Int := do
  let (negative, cs) := takeSign (← numeral? cs)
  let n ← groupedValue? base (behindBaseMark base cs)
  return if negative then -(n : Int) else n

end Text
end BeanBuilder
