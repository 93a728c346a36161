import BeanBuilder.Data.Json.Reader
import BeanBuilder.Java.Letter
import BeanBuilder.Java.Token
import BeanBuilder.Text.Numeral

/-!
# Reading Java tokens

First every `\u` escape of the source is replaced by its character, wherever it stands.  Then
blanks and comments are passed over and tokens are read one after another.  The source is refused
if a block comment or a string does not end, if a string holds an unknown escape, or if no token
begins with a character.
-/

namespace BeanBuilder
namespace Java

open Text

/-! ### Unicode escapes -/

/-- The code of an escape: a numeral in base sixteen that is not negative. -/
def escapeCode? (cs : List Char) : Option Nat :=
  match wholeNumber? 16 cs with
  | some (.ofNat code) => some code
  | _ => none

/-- The source with its escapes replaced, `kept` holding what comes since the last escape, last
character first.  A backslash takes the character behind it along.  At an escape without digits at
the end of the source, the text since the last escape counts twice. -/
def unescape? : (steps : Nat) → (kept : List Char) → List Char → Option (List Char)
  | 0, kept, rest => some (kept.reverse ++ rest)
  | _ + 1, kept, [] => some kept.reverse
  | steps + 1, kept, '\\' :: 'u' :: rest =>
    let digits := rest.dropWhile (· = 'u')
    if digits.isEmpty then some (kept.reverse ++ kept.reverse ++ '\\' :: 'u' :: rest)
    else do
      let code ← escapeCode? (digits.take 4)
      let more ← unescape? steps [] (digits.drop 4)
      return kept.reverse ++ Json.charOf code :: more
  | steps + 1, kept, '\\' :: c :: rest => unescape? steps (c :: '\\' :: kept) rest
  | steps + 1, kept, c :: rest => unescape? steps (c :: kept) rest

/-! ### Comments, strings and numbers -/

/-- What follows the end of a block comment. -/
def afterBlockComment? : List Char → Option (List Char)
  | [] => none
  | '*' :: '/' :: rest => some rest
  | _ :: rest => afterBlockComment? rest

/-- What follows the end of a line. -/
def afterLine (cs : List Char) : List Char :=
  (cs.dropWhile (· ≠ '\n')).drop 1

/-- The characters that may follow a backslash in a string. -/
def stringEscapes : List Char :=
  "btnfru\"'\\01234567".toList

/-- The number of characters of a string behind its opening quote. -/
def stringLength? (quote : Char) : List Char → Option Nat
  | [] => none
  | '\\' :: c :: rest =>
    if stringEscapes.contains c then (stringLength? quote rest).map (· + 2) else none
  | c :: rest => if c = quote then some 1 else (stringLength? quote rest).map (· + 1)

/-- The number of characters of digits of some class with underscores among them, `pending` of
them read since the last digit.  The letter of long numbers adds one. -/
def digitsLength (isDigit : Char → Bool) : (pending : Nat) → List Char → Nat
  | _, [] => 0
  | pending, c :: rest =>
    if isDigit c then pending + 1 + digitsLength isDigit 0 rest
    else if c = '_' then digitsLength isDigit (pending + 1) rest
    else if c = 'l' ∨ c = 'L' then 1
    else 0

/-- Whether the first character of a text is one of some. -/
def beginsIn (letters : String) (cs : List Char) : Bool :=
  cs.head?.any letters.toList.contains

/-- The length of what may follow, if a text begins with one of some characters. -/
def lengthIf (letters : String) (cs : List Char) : Nat :=
  if beginsIn letters cs then 1 else 0

/-- The number of characters of a decimal number. -/
def decimalLength (cs : List Char) : Nat :=
  let whole := digitsLength Char.isDigit 0 cs
  if beginsIn ".eEfFdD" (cs.drop whole) then
    let n := if beginsIn "." (cs.drop whole) then
        whole + 1 + digitsLength Char.isDigit 0 (cs.drop (whole + 1))
      else whole
    let n := if beginsIn "eE" (cs.drop n) then
        let n := n + 1 + lengthIf "+-" (cs.drop (n + 1))
        n + digitsLength Char.isDigit 0 (cs.drop n)
      else n
    n + lengthIf "fFdD" (cs.drop n)
  else whole

/-- Whether a character is a hexadecimal digit. -/
def isHexDigit (c : Char) : Bool :=
  (hexValue? c).isSome

/-- The number of characters of a hexadecimal number; a fraction needs an exponent. -/
def hexLength? (cs : List Char) : Option Nat :=
  let whole := 2 + digitsLength isHexDigit 0 (cs.drop 2)
  if beginsIn ".pP" (cs.drop whole) then
    let n := if beginsIn "." (cs.drop whole) then
        whole + 1 + digitsLength isHexDigit 0 (cs.drop (whole + 1))
      else whole
    if beginsIn "pP" (cs.drop n) then
      let n := n + 1 + lengthIf "+-" (cs.drop (n + 1))
      let n := n + digitsLength Char.isDigit 0 (cs.drop n)
      some (n + lengthIf "fFdD" (cs.drop n))
    else none
  else some whole

/-- The number of characters of a number. -/
def numberLength? (cs : List Char) : Option Nat :=
  match cs with
  | '0' :: c :: rest =>
    if c = 'x' ∨ c = 'X' then hexLength? cs
    else if c = 'b' ∨ c = 'B' then
      some (2 + digitsLength (fun d => d = '0' || d = '1') 0 rest)
    else if '0' ≤ c ∧ c ≤ '7' then
      some (1 + digitsLength (fun d => '0' ≤ d && d ≤ '7') 0 (c :: rest))
    else some (decimalLength cs)
  | _ => some (decimalLength cs)

/-- The operator that a text begins with, the longest one. -/
def operator? (cs : List Char) : Option String :=
  operators.find? fun s => beginsWith s.toList cs

/-! ### Tokens -/

/-- A token of the first characters of a text, and the rest. -/
def tokenOfLength (kind : TokenKind) (cs : List Char) (length : Nat) : Token × List Char :=
  (⟨kind, String.ofList (cs.take length)⟩, cs.drop length)

/-- The token that a text begins with, and the rest. -/
def token? (cs : List Char) : Option (Token × List Char) :=
  match cs with
  | [] => none
  | c :: rest =>
    if c = '.' ∧ beginsWith ['.', '.'] rest then some (tokenOfLength .operator cs 3)
    else if c = '@' then some (tokenOfLength .at cs 1)
    else if c = '.' ∧ rest.head?.any Char.isDigit then
      some (tokenOfLength .literal cs (decimalLength cs))
    else if separators.contains c then some (tokenOfLength .separator cs 1)
    else if c = '"' ∨ c = '\'' then
      (stringLength? c rest).map fun n => tokenOfLength .literal cs (n + 1)
    else if c.isDigit then (numberLength? cs).map (tokenOfLength .literal cs)
    else if isIdentifierStart c then
      let word := c :: rest.takeWhile isIdentifierPart
      some (.ofWord (String.ofList word), rest.dropWhile isIdentifierPart)
    else (operator? cs).map fun s => (⟨.operator, s⟩, cs.drop s.length)

/-- The tokens of a text without escapes. -/
def scan? : (steps : Nat) → List Char → Option (List Token)
  | 0, _ => none
  | steps + 1, cs =>
    match cs with
    | [] => some []
    | c :: rest =>
      if isBlank c then scan? steps rest
      else if beginsWith ['/', '/'] cs then scan? steps (afterLine cs)
      else if beginsWith ['/', '*'] cs then do scan? steps (← afterBlockComment? (cs.drop 2))
      else do
        let (t, rest) ← token? cs
        let more ← scan? steps rest
        return t :: more

/-- The tokens of a source text. -/
def tokens? (source : String) : Option (List Token) := do
  let cs := source.toList
  let text ← unescape? (cs.length + 1) [] cs
  scan? (text.length + 1) text

end Java
end BeanBuilder
