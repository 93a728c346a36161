import BeanBuilder.Data.Yaml.Cursor
import BeanBuilder.Data.Yaml.Scalar
import BeanBuilder.Data.Yaml.Sharing
import BeanBuilder.Text.Quoted

/-!
# Writing YAML

A mapping is written as a block, with an indentation of two blanks for every level; the dashes of
a list stand at the column of its key.  A text is written without quotes where it reads back as
the same text, in single quotes where those suffice, and in double quotes with escapes otherwise.
Texts that reach beyond column 80 go on in the next line at a blank.

A collection that stands in several places is written once, behind an ampersand and its number, and
stands in the other places as its number behind an asterisk.  A pair is written as a list.
-/

namespace BeanBuilder
namespace Yaml

/-! ### The form of a text -/

/-- A character that double quotes have to escape: all but printable ASCII and the line feed. -/
def isSpecial (c : Char) : Bool :=
  !(c = '\n' || (0x20 ≤ c.toNat && c.toNat ≤ 0x7e))

/-- Whether two neighbours in a text, in some order, are a blank and a line feed. -/
def hasBlankAtBreak : List Char → Bool
  | a :: b :: rest => (a = ' ' && b = '\n') || (a = '\n' && b = ' ') || hasBlankAtBreak (b :: rest)
  | _ => false

/-- Whether a colon before a gap or a number sign behind one stands in a text, `before` being the
character in front of it. -/
def hasMark (before : Char) : List Char → Bool
  | [] => false
  | c :: rest =>
    (c = ':' && rest.head?.all isGap) || (c = '#' && isGap before) || hasMark c rest

/-- Whether a text begins with a character or a word that means something else in a block. -/
def beginsMarked : List Char → Bool
  | [] => false
  | c :: rest =>
    "#,[]{}&*!|>'\"%@`".toList.contains c
      || ("?:-".toList.contains c && rest.head?.all isGap)
      || Text.beginsWith ['-', '-', '-'] (c :: rest) || Text.beginsWith ['.', '.', '.'] (c :: rest)

/-- Whether a text may stand without quotes. -/
def isPlain (cs : List Char) : Bool :=
  NodeType.ofText cs = .text && !cs.any isSpecial && !cs.contains '\n'
    && cs.head? ≠ some ' ' && cs.getLast? ≠ some ' ' && !beginsMarked cs
    && !hasMark 'x' cs

/-- Whether a text may stand in single quotes. -/
def isQuotable (cs : List Char) : Bool :=
  !cs.any isSpecial && !hasBlankAtBreak cs

/-! ### Scalars -/

/-- The column behind which a text goes on in the next line. -/
def width : Nat :=
  80

/-- The start of a line at an indentation. -/
def newLine (indent : Nat) : List Char :=
  '\n' :: List.replicate indent ' '

/-- Whether two characters belong to one stretch: of blanks, of line feeds or of others. -/
def inOneStretch (a b : Char) : Bool :=
  (a = ' ') = (b = ' ') && (a = '\n') = (b = '\n')

/-- The stretches of a text that stands without quotes. -/
def plainText (split : Bool) (indent : Nat) : (column : Nat) → List (List Char) → List Char
  | _, [] => []
  | column, stretch :: rest =>
    if split ∧ stretch = [' '] ∧ column > width then
      newLine indent ++ plainText split indent indent rest
    else stretch ++ plainText split indent (column + stretch.length) rest

/-- One character in single quotes; a quote is written twice. -/
def singleQuoted (c : Char) : List Char :=
  if c = '\'' then ['\'', '\''] else [c]

/-- The stretches of a text in single quotes, with one line feed more for every stretch of them. -/
def singleText (split : Bool) (indent : Nat) : (first : Bool) → (column : Nat) →
    List (List Char) → List Char
  | _, _, [] => []
  | first, column, stretch :: rest =>
    if stretch.contains '\n' then
      stretch ++ newLine indent ++ singleText split indent false indent rest
    else if split ∧ !first ∧ !rest.isEmpty ∧ stretch = [' '] ∧ column > width then
      newLine indent ++ singleText split indent false indent rest
    else
      let text := stretch.flatMap singleQuoted
      text ++ singleText split indent false (column + text.length) rest

/-- The characters with short escapes in double quotes. -/
def shortEscapes : List (Nat × Char) :=
  [(0, '0'), (7, 'a'), (8, 'b'), (9, 't'), (10, 'n'), (11, 'v'), (12, 'f'), (13, 'r'), (0x1b, 'e'),
    (0x22, '"'), (0x5c, '\\'), (0x85, 'N'), (0xa0, '_'), (0x2028, 'L'), (0x2029, 'P')]

/-- Hexadecimal digits in capitals, as many as given. -/
def capitalDigits (count n : Nat) : List Char :=
  (Text.hexDigits count n).map Char.toUpper

/-- The escape of a character in double quotes, if it needs one. -/
def escape? (c : Char) : Option (List Char) :=
  let n := c.toNat
  match shortEscapes.lookup n with
  | some letter => some ['\\', letter]
  | none =>
    if 0x20 ≤ n ∧ n ≤ 0x7e then none
    else if n ≤ 0xff then some ('\\' :: 'x' :: capitalDigits 2 n)
    else if n ≤ 0xffff then some ('\\' :: 'u' :: capitalDigits 4 n)
    else some ('\\' :: 'U' :: capitalDigits 8 n)

/-- The characters of a text in double quotes.  A line may end with a backslash before a blank and
before and behind an escape, but not before the first and the last character. -/
def doubleText (split : Bool) (indent : Nat) : (first afterEscape : Bool) → (column : Nat) →
    List Char → List Char
  | _, _, _, [] => []
  | first, afterEscape, column, c :: rest =>
    let inner := split && !first && !rest.isEmpty
    match escape? c with
    | some text =>
      if inner && column + text.length > width + 1 then
        if rest.head? = some ' ' then
          text ++ '\\' :: newLine indent
            ++ '\\' :: doubleText split indent false true (indent + 1) rest
        else text ++ '\\' :: newLine indent ++ doubleText split indent false true indent rest
      else text ++ doubleText split indent false true (column + text.length) rest
    | none =>
      if inner && (c = ' ' || afterEscape) && column > width then
        if c = ' ' then
          '\\' :: newLine indent
            ++ '\\' :: c :: doubleText split indent false false (indent + 2) rest
        else '\\' :: newLine indent ++ c :: doubleText split indent false false (indent + 1) rest
      else c :: doubleText split indent false false (column + 1) rest

/-- A text in the simplest form that reads back, beginning at a column. -/
def textScalar (split : Bool) (indent column : Nat) (s : String) : List Char :=
  let cs := s.toList
  let stretches := cs.splitBy inOneStretch
  if isPlain cs then plainText split indent column stretches
  else if isQuotable cs then
    '\'' :: singleText split indent true (column + 1) stretches ++ ['\'']
  else '"' :: doubleText split indent true false (column + 1) cs ++ ['"']

/-- A number with a fraction; an exponent stands behind a fraction. -/
def realScalar (bits : UInt64) : List Char :=
  let cs := (Value.realText ⟨".inf", ".nan"⟩ bits).toList
  let front := cs.takeWhile (· ≠ 'e')
  if cs.contains '.' ∨ front.length = cs.length then cs
  else front ++ ".0".toList ++ cs.drop front.length

/-- A value that fits on the line of its key. -/
def scalarText (indent column : Nat) : Value → List Char
  | .null => "null".toList
  | .truth b => (if b then "true" else "false").toList
  | .whole n => (Value.wholeText n).toList
  | .real bits => realScalar bits
  | .text s => textScalar true indent column s
  | .bytes data => "!!binary \"".toList ++ Base64.encode data ++ ['"']
  | .moment m => m.text.toList
  | .list _ => ['[', ']']
  | .pair _ _ => ['[', ']']
  | .set _ => "!!set {}".toList
  | .mapping _ => ['{', '}']
  | .anchored _ _ _ => []
  | .again _ => []

/-- The number of a collection behind a mark. -/
def numberText (mark : Char) (n : Nat) : List Char :=
  mark :: 'i' :: 'd' :: (Moment.padded 3 n).toList

/-! ### Keys -/

/-- A key on one line. -/
def keyScalar (indent : Nat) : Value → List Char
  | .text s => textScalar false indent indent s
  | k => scalarText indent indent k

/-- The most characters of a key that fits before its colon. -/
def keyLimit : Nat :=
  122

/-- Whether a key fits before its colon: it stands on one line and is not too long. -/
def isSimpleKey : Value → Bool
  | .text key =>
    key ≠ "" && key.length ≤ keyLimit && !key.toList.any fun c => isBreak c && c ≠ '\r'
  | k => (scalarText 0 0 k).length ≤ keyLimit

/-! ### Blocks -/

/-- The members of a set, which are keys without values. -/
def membersText (indent : Nat) (members : List Value) : List Char :=
  Text.joinWith (newLine indent) (members.map fun m => keyScalar indent m ++ ": null".toList)

/-- Whether a value is written with its number. -/
def isNumbered : Value → Bool
  | .anchored _ _ _ => true
  | _ => false

mutual

/-- A value behind what ends at a column.  Dashes stand at the first indentation and keys at the
second one; the first of them follows in the same line if `joined`, and else in the next one. -/
def valueText (joined : Bool) (dashes keys column : Nat) : Value → List Char
  | .list (item :: items) =>
    (if joined then [' '] else newLine dashes) ++ itemsText dashes (item :: items)
  | .pair a b =>
    (if joined then [' '] else newLine dashes)
      ++ '-' :: valueText true (dashes + 2) (dashes + 2) (dashes + 1) a ++ newLine dashes
      ++ '-' :: valueText true (dashes + 2) (dashes + 2) (dashes + 1) b
  | .set (m :: ms) => " !!set".toList ++ newLine keys ++ membersText keys (m :: ms)
  | .mapping (entry :: entries) =>
    (if joined then [' '] else newLine keys) ++ entriesText keys (entry :: entries)
  | .anchored n _ v =>
    let mark := ' ' :: numberText '&' n
    mark ++ valueText false dashes keys (column + mark.length) v
  | .again n => ' ' :: numberText '*' n
  | v => ' ' :: scalarText keys (column + 1) v

/-- The items of a list, whose dashes stand at an indentation. -/
def itemsText (indent : Nat) : List Value → List Char
  | [] => []
  | item :: rest =>
    '-' :: valueText true (indent + 2) (indent + 2) (indent + 1) item
      ++ (if rest.isEmpty then [] else newLine indent) ++ itemsText indent rest

/-- The entries of a mapping, whose keys stand at an indentation. -/
def entriesText (indent : Nat) : List (Value × Value) → List Char
  | [] => []
  | (key, value) :: rest =>
    (if isSimpleKey key then
      let text := keyScalar indent key
      text ++ ':' :: valueText false indent (indent + 2) (indent + text.length + 1) value
    else
      let dashes := if isNumbered value then indent else indent + 2
      '?' :: ' ' :: scalarText (indent + 2) (indent + 2) key ++ newLine indent
        ++ ':' :: valueText true dashes (indent + 2) (indent + 1) value)
      ++ (if rest.isEmpty then [] else newLine indent) ++ entriesText indent rest

end

/-- A mapping as a YAML text. -/
def write (v : Value) : String :=
  match shared v with
  | .mapping entries => String.ofList (entriesText 0 entries ++ ['\n'])
  | v => String.ofList (scalarText 0 0 v ++ ['\n'])

end Yaml
end BeanBuilder
