import BeanBuilder.Data.Value
import BeanBuilder.Text.Numeral

/-!
# Reading JSON

The JSON grammar with three additions: the numbers `NaN`, `Infinity` and `-Infinity`.  A text may
not begin with a byte order mark, control characters may not stand in strings as themselves, and
of two entries with one key the last one counts.

Texts consist of whole characters here.  The format knows escapes for half a code point as well;
one without its other half is read as U+FFFD, where the format keeps the half.

Every reader answers with the value and the rest of the text.  Readers that call each other take
the number of calls they may still nest; the length of the text is always enough.
-/

namespace BeanBuilder
namespace Json

open Text

/-- The blanks of JSON. -/
def isSpace (c : Char) : Bool :=
  c = ' ' || c = '\t' || c = '\n' || c = '\r'

/-- A text without the blanks at its start. -/
def skipSpace (cs : List Char) : List Char :=
  cs.dropWhile isSpace

/-- The value of four hexadecimal digits. -/
def hexUnit? : List Char → Option (Nat × List Char)
  | a :: b :: c :: d :: rest => do
    let a ← hexValue? a
    let b ← hexValue? b
    let c ← hexValue? c
    let d ← hexValue? d
    return (((a * 16 + b) * 16 + c) * 16 + d, rest)
  | _ => none

/-- The first half of a code point beyond sixteen bits. -/
def isHighHalf (n : Nat) : Bool :=
  0xd800 ≤ n && n ≤ 0xdbff

/-- The second half of a code point beyond sixteen bits. -/
def isLowHalf (n : Nat) : Bool :=
  0xdc00 ≤ n && n ≤ 0xdfff

/-- A character for a code point.  No character stands for half a code point, so U+FFFD does. -/
def charOf (n : Nat) : Char :=
  if isHighHalf n ∨ isLowHalf n then Char.ofNat 0xfffd else Char.ofNat n

/-- The character after `\u`, with the second half of its code point if it has two. -/
def escapedUnit? (cs : List Char) : Option (Char × List Char) := do
  let (high, rest) ← hexUnit? cs
  if isHighHalf high then
    match rest with
    | '\\' :: 'u' :: more =>
      match hexUnit? more with
      | some (low, beyond) =>
        if isLowHalf low then
          return (Char.ofNat (0x10000 + (high - 0xd800) * 0x400 + (low - 0xdc00)), beyond)
        else return (charOf high, rest)
      | none => return (charOf high, rest)
    | _ => return (charOf high, rest)
  else return (charOf high, rest)

/-- The character that a backslash and a letter stand for. -/
def escapedLetter? (c : Char) : Option Char :=
  [('"', '"'), ('\\', '\\'), ('/', '/'), ('b', '\x08'), ('f', '\x0c'), ('n', '\n'), ('r', '\r'),
    ('t', '\t')].lookup c

/-- The characters of a string up to its closing quote. -/
def readString? : (calls : Nat) → List Char → Option (List Char × List Char)
  | 0, _ => none
  | _ + 1, [] => none
  | _ + 1, '"' :: rest => some ([], rest)
  | calls + 1, '\\' :: 'u' :: rest => do
    let (c, rest) ← escapedUnit? rest
    let (cs, rest) ← readString? calls rest
    return (c :: cs, rest)
  | calls + 1, '\\' :: letter :: rest => do
    let c ← escapedLetter? letter
    let (cs, rest) ← readString? calls rest
    return (c :: cs, rest)
  | calls + 1, c :: rest => do
    if c.toNat < 0x20 ∨ c = '\\' then failure
    let (cs, rest) ← readString? calls rest
    return (c :: cs, rest)

/-- The number that decimal digits stand for. -/
def digitsValue (cs : List Char) : Nat :=
  cs.foldl (fun n c => n * 10 + (c.toNat - 48)) 0

/-- Whole digits: a zero alone, or digits that do not begin with a zero. -/
def wholeDigits? : List Char → Option (List Char × List Char)
  | '0' :: rest => some (['0'], rest)
  | cs =>
    let digits := cs.takeWhile Char.isDigit
    if digits.isEmpty then none else some (digits, cs.drop digits.length)

/-- The digits of a fraction, if the text goes on with one. -/
def fractionDigits : List Char → List Char × List Char
  | '.' :: rest =>
    let digits := rest.takeWhile Char.isDigit
    if digits.isEmpty then ([], '.' :: rest) else (digits, rest.drop digits.length)
  | cs => ([], cs)

/-- The exponent, if the text goes on with one. -/
def exponent? : List Char → Option (Int × List Char)
  | c :: rest =>
    if c = 'e' ∨ c = 'E' then
      let (sign, rest) := match rest with
        | '-' :: more => ((-1 : Int), more)
        | '+' :: more => (1, more)
        | _ => (1, rest)
      let digits := rest.takeWhile Char.isDigit
      if digits.isEmpty then none
      else some (sign * digitsValue digits, rest.drop digits.length)
    else none
  | [] => none

/-- A number after its sign: whole unless it has a fraction or an exponent. -/
def readNumber? (negative : Bool) (cs : List Char) : Option (Value × List Char) := do
  let (whole, rest) ← wholeDigits? cs
  let (fraction, rest) := fractionDigits rest
  match fraction, exponent? rest with
  | [], none =>
    if whole.length > digitLimit then failure
    let n := digitsValue whole
    return (.whole (if negative then -(n : Int) else n), rest)
  | _, exponent =>
    let (power, rest) := exponent.getD (0, rest)
    let digits := digitsValue (whole ++ fraction)
    return (.real (Binary64.ofDecimal negative digits (power - fraction.length)), rest)

/-- What is not a number, which is one value wherever it stands. -/
def notANumber : Value :=
  .real (Binary64.notANumber 1)

/-- The values that are spelled as words. -/
def wordValues : List (List Char × Value) :=
  [("null".toList, .null), ("true".toList, .truth true), ("false".toList, .truth false),
    ("NaN".toList, notANumber),
    ("Infinity".toList, .real (Binary64.infinity false)),
    ("-Infinity".toList, .real (Binary64.infinity true))]

/-- A value that is spelled as a word. -/
def readWord? (cs : List Char) : Option (Value × List Char) :=
  wordValues.findSome? fun (word, value) => (afterStart? word cs).map fun rest => (value, rest)

mutual

/-- Any value. -/
def readValue? : (calls : Nat) → List Char → Option (Value × List Char)
  | 0, _ => none
  | calls + 1, cs =>
    match cs with
    | '"' :: rest => do
      let (s, rest) ← readString? (rest.length + 1) rest
      return (.text (String.ofList s), rest)
    | '[' :: rest =>
      match skipSpace rest with
      | ']' :: rest => some (.list [], rest)
      | rest => do
        let (items, rest) ← readItems? calls rest
        return (.list items, rest)
    | '{' :: rest =>
      match skipSpace rest with
      | '}' :: rest => some (.mapping [], rest)
      | rest => do
        let (entries, rest) ← readEntries? calls rest
        return (Value.mappingOf entries, rest)
    | cs =>
      match readWord? cs with
      | some found => some found
      | none =>
        match cs with
        | '-' :: rest => readNumber? true rest
        | _ => readNumber? false cs

/-- The items of a list up to its closing bracket. -/
def readItems? : (calls : Nat) → List Char → Option (List Value × List Char)
  | 0, _ => none
  | calls + 1, cs => do
    let (item, rest) ← readValue? calls cs
    match skipSpace rest with
    | ']' :: rest => return ([item], rest)
    | ',' :: rest =>
      let (items, rest) ← readItems? calls (skipSpace rest)
      return (item :: items, rest)
    | _ => none

/-- The entries of a mapping up to its closing brace. -/
def readEntries? : (calls : Nat) → List Char → Option (List (Value × Value) × List Char)
  | 0, _ => none
  | calls + 1, cs =>
    match cs with
    | '"' :: rest => do
      let (key, rest) ← readString? (rest.length + 1) rest
      match skipSpace rest with
      | ':' :: rest =>
        let (value, rest) ← readValue? calls (skipSpace rest)
        let entry := (Value.text (String.ofList key), value)
        match skipSpace rest with
        | '}' :: rest => return ([entry], rest)
        | ',' :: rest =>
          let (entries, rest) ← readEntries? calls (skipSpace rest)
          return (entry :: entries, rest)
        | _ => none
      | _ => none
    | _ => none

end

/-- The value of a JSON text, nothing if the text is not one value. -/
def read? (text : String) : Option Value :=
  let cs := text.toList
  match readValue? (2 * cs.length + 2) (skipSpace cs) with
  | some (value, rest) => if (skipSpace rest).isEmpty then some value else none
  | none => none

end Json
end BeanBuilder
