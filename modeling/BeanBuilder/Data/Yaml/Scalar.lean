import BeanBuilder.Breakdown
import BeanBuilder.Data.Base64
import BeanBuilder.Data.Value
import BeanBuilder.Text.LetterCase
import BeanBuilder.Text.Numeral

/-!
# Types and scalars of YAML

Every node has a type, which its tag names.  A scalar without quotes and without a tag has the type
that its text suggests, by the rules of YAML 1.1: `yes` and `off` are truth values, `007` is octal,
`1:30` counts in sixties, underscores may part digits, and an exponent needs its sign.  A text that
suggests nothing is a string.

A tag takes more texts than suggest its type: truth values in any mixture of capitals, and numbers
in all the forms of numerals.
-/

namespace BeanBuilder
namespace Yaml

open Text

/-- The types of nodes. -/
inductive NodeType where
  | text
  | null
  | truth
  | whole
  | real
  | bytes
  | time
  | list
  | mapping
  | set
  /-- A list of single entries. -/
  | pairs
  /-- The key `<<`, which brings in the entries of other mappings. -/
  | merge
  /-- The key `=`, under which a mapping keeps the scalar that it stands for. -/
  | equals
  /-- A type that is not known, of which there are no values. -/
  | unknown
  deriving DecidableEq, Repr

namespace NodeType

/-- Whether the values of a type are collections. -/
def isCollection : NodeType → Bool
  | .list => true
  | .mapping => true
  | .set => true
  | .pairs => true
  | _ => false

/-- The types by the names in their tags. -/
def names : List (String × NodeType) :=
  [("str", .text), ("null", .null), ("bool", .truth), ("int", .whole), ("float", .real),
    ("binary", .bytes), ("timestamp", .time), ("seq", .list), ("map", .mapping), ("set", .set),
    ("omap", .pairs), ("pairs", .pairs), ("merge", .merge), ("value", .equals)]

end NodeType

/-- A tag of the standard types. -/
def standardTag (name : String) : String :=
  "tag:yaml.org,2002:" ++ name

/-- The type that a tag names. -/
def NodeType.ofTag (tag : String) : NodeType :=
  match NodeType.names.find? fun (name, _) => standardTag name = tag with
  | some (_, type) => type
  | none => .unknown

/-! ### Forms -/

/-- A digit or an underscore. -/
def isDigitMark (c : Char) : Bool :=
  c.isDigit || c = '_'

/-- A text without a sign at its start. -/
def unsigned : List Char → List Char
  | '+' :: rest => rest
  | '-' :: rest => rest
  | cs => cs

/-- Digits with underscores among them, the first one a digit of some class. -/
def isGrouped (first : Char → Bool) : List Char → Bool
  | [] => false
  | c :: rest => first c && rest.all isDigitMark

/-- A sign and digits behind an exponent letter, or nothing. -/
def isExponentOrEmpty : List Char → Bool
  | [] => true
  | mark :: sign :: digits =>
    (mark = 'e' || mark = 'E') && (sign = '+' || sign = '-') && !digits.isEmpty
      && digits.all Char.isDigit
  | _ => false

/-- A number below sixty in one or two digits. -/
def isSixtieth : List Char → Bool
  | [a] => a.isDigit
  | [a, b] => '0' ≤ a && a ≤ '5' && b.isDigit
  | _ => false

/-- A number in sixties: two parts or more, with colons between them. -/
def isSixties (first : Char → Bool) (cs : List Char) : Bool :=
  match cutAt ':' cs with
  | lead :: part :: parts => isGrouped first lead && (part :: parts).all isSixtieth
  | _ => false

/-- The part of a text before the first point, and the part behind it. -/
def cutAtPoint? (cs : List Char) : Option (List Char × List Char) :=
  let front := cs.takeWhile (· ≠ '.')
  match cs.drop front.length with
  | '.' :: back => some (front, back)
  | _ => none

/-- Whether a text suggests a whole number. -/
def isWhole (cs : List Char) : Bool :=
  match unsigned cs with
  | ['0'] => true
  | '0' :: 'b' :: digits =>
    !digits.isEmpty && digits.all fun c => c = '0' || c = '1' || c = '_'
  | '0' :: 'x' :: digits =>
    !digits.isEmpty && digits.all fun c => (hexValue? c).isSome || c = '_'
  | '0' :: digits => digits.all fun c => ('0' ≤ c && c ≤ '7') || c = '_'
  | body =>
    let first (c : Char) : Bool := c.isDigit && c ≠ '0'
    isGrouped first body || isSixties first body

/-- Whether a text suggests a number with a fraction. -/
def isReal (cs : List Char) : Bool :=
  let body := unsigned cs
  let signed := body.length < cs.length
  match cutAtPoint? body with
  | none => false
  | some ([], back) =>
    ["inf", "Inf", "INF"].contains (String.ofList back)
      || (!signed
        && (["nan", "NaN", "NAN"].contains (String.ofList back)
          || (isGrouped Char.isDigit (back.takeWhile isDigitMark)
            && isExponentOrEmpty (back.dropWhile isDigitMark))))
  | some (front, back) =>
    (isGrouped Char.isDigit front && isExponentOrEmpty (back.dropWhile isDigitMark))
      || (isSixties Char.isDigit front && back.all isDigitMark)

/-- The truth values by their words. -/
def truthWords : List (String × Bool) :=
  [("yes", true), ("Yes", true), ("YES", true), ("true", true), ("True", true), ("TRUE", true),
    ("on", true), ("On", true), ("ON", true), ("no", false), ("No", false), ("NO", false),
    ("false", false), ("False", false), ("FALSE", false), ("off", false), ("Off", false),
    ("OFF", false)]

/-- The spellings of nothing. -/
def nullWords : List String :=
  ["", "~", "null", "Null", "NULL"]

/-! ### Dates and times -/

/-- A number of at least `least` and at most `most` digits, and what follows it. -/
def digits? (least most : Nat) (cs : List Char) : Option (Nat × List Char) :=
  let digits := (cs.take most).takeWhile Char.isDigit
  if digits.length < least then none
  else (digitsValue? 10 digits).map fun n => (n, cs.drop digits.length)

/-- What follows a character. -/
def behind? (c : Char) : List Char → Option (List Char)
  | x :: rest => if x = c then some rest else none
  | [] => none

/-- The blanks and tabs at the start of a text, and what follows them. -/
def gapBefore (cs : List Char) : List Char × List Char :=
  let gap := cs.takeWhile fun c => c = ' ' || c = '\t'
  (gap, cs.drop gap.length)

/-- The time zone at the end of a time, if there is one. -/
def zone? (cs : List Char) : Option (Option Int) :=
  match (gapBefore cs).2 with
  | [] => if cs.isEmpty then some none else none
  | ['Z'] => some (some 0)
  | sign :: rest => do
    if sign ≠ '+' ∧ sign ≠ '-' then failure
    let (hours, rest) ← digits? 1 2 rest
    let (minutes, rest) ←
      if rest.isEmpty then pure (0, rest) else digits? 2 2 (← behind? ':' rest)
    if !rest.isEmpty then failure
    let ahead : Int := (hours * 60 + minutes : Nat)
    return some (if sign = '-' then -ahead else ahead)

/-- The microseconds of a fraction: its first six digits, with zeros behind them if there are
fewer. -/
def microseconds (digits : List Char) : Nat :=
  let six := digits.take 6
  (digitsValue? 10 (six ++ List.replicate (6 - six.length) '0')).getD 0

/-- The time of a moment behind its date. -/
def time? (cs : List Char) : Option TimeOfDay := do
  let (hour, rest) ← digits? 1 2 cs
  let (minute, rest) ← digits? 2 2 (← behind? ':' rest)
  let (second, rest) ← digits? 2 2 (← behind? ':' rest)
  let (fraction, rest) := match rest with
    | '.' :: more => (more.takeWhile Char.isDigit, more.dropWhile Char.isDigit)
    | _ => ([], rest)
  return ⟨hour, minute, second, microseconds fraction, ← zone? rest⟩

/-- A date, or a date and a time; months and days may have one digit. -/
def moment? (cs : List Char) : Option Moment := do
  let (year, rest) ← digits? 4 4 cs
  let (month, rest) ← digits? 1 2 (← behind? '-' rest)
  let (day, rest) ← digits? 1 2 (← behind? '-' rest)
  let date : Date := ⟨year, month, day⟩
  match rest with
  | [] => return ⟨date, none⟩
  | mark :: more =>
    let (gap, behindGap) := gapBefore rest
    if mark = 'T' ∨ mark = 't' then return ⟨date, ← time? more⟩
    else if gap.isEmpty then failure
    else return ⟨date, ← time? behindGap⟩

/-- Whether a text suggests a moment; the month and the day of a date alone have two digits. -/
def isMoment (cs : List Char) : Bool :=
  match moment? cs with
  | some m => m.time.isSome || cs.length = 10
  | none => false

/-! ### Types and values -/

/-- The type that a text of some form suggests. -/
def NodeType.ofForm (cs : List Char) : NodeType :=
  let s := String.ofList cs
  if (truthWords.lookup s).isSome then .truth
  else if isReal cs then .real
  else if isWhole cs then .whole
  else if s = "<<" then .merge
  else if nullWords.contains s then .null
  else if isMoment cs then .time
  else if s = "=" then .equals
  else if ["!", "&", "*"].contains s then .unknown
  else .text

/-- The type that a text suggests.  A line feed at the end does not count, unless it is all there
is. -/
def NodeType.ofText (cs : List Char) : NodeType :=
  if cs = ['\n'] then .text else .ofForm (withoutLastBreak cs)

/-- A text without underscores. -/
def ungrouped (cs : List Char) : List Char :=
  cs.filter (· ≠ '_')

/-- The whole number in sixties that some parts make up. -/
def wholeSixties? (parts : List (List Char)) : Option Int :=
  parts.foldlM (fun (n : Int) part => (wholeNumber? 10 part).map (n * 60 + ·)) 0

/-- The whole number of a text. -/
def wholeOf? (cs : List Char) : Option Int := do
  let (negative, body) := takeSign (ungrouped cs)
  let n ← match body with
    | ['0'] => some 0
    | '0' :: 'b' :: digits => wholeNumber? 2 digits
    | '0' :: 'x' :: digits => wholeNumber? 16 digits
    | '0' :: _ => wholeNumber? 8 body
    | _ => if body.contains ':' then wholeSixties? (cutAt ':' body) else wholeNumber? 10 body
  return if negative then -n else n

/-- The exponent of a number behind its digits, which may be missing. -/
def exponentOf? (cs : List Char) : Option Int :=
  match cs with
  | [] => some 0
  | mark :: rest => do
    if mark ≠ 'e' then failure
    let (negative, digits) := takeSign rest
    if digits.isEmpty ∨ !digits.all Char.isDigit then failure
    let n ← digitsValue? 10 digits
    return if negative then -(n : Int) else n

/-- A number with digits, perhaps a fraction and perhaps an exponent. -/
def decimalFraction? (negative : Bool) (cs : List Char) : Option UInt64 := do
  let whole := cs.takeWhile Char.isDigit
  let (fraction, rest) := match cs.drop whole.length with
    | '.' :: more => (more.takeWhile Char.isDigit, more.dropWhile Char.isDigit)
    | rest => ([], rest)
  let digits := whole ++ fraction
  if digits.isEmpty then failure
  let power ← exponentOf? rest
  return Binary64.ofDecimal negative (← digitsValue? 10 digits) (power - fraction.length)

/-- The number that a numeral in small letters stands for: a decimal fraction, infinity, or what is
not a number. -/
def realNumber? (cs : List Char) : Option UInt64 := do
  let (negative, body) := takeSign (← numeral? cs)
  let word := String.ofList body
  if word = "inf" ∨ word = "infinity" then return Binary64.infinity negative
  else if word = "nan" then return Binary64.notANumber 0
  else decimalFraction? negative body

/-- The sum of the parts of a number in sixties, from the last part up. -/
def sixtiesSum (unit sum : Float) : List Float → Float
  | [] => sum
  | part :: rest => sixtiesSum (unit * 60) (sum + part * unit) rest

/-- The bits of what is not a number and spelled so, which is one value wherever it stands. -/
def notANumber : UInt64 :=
  Binary64.notANumber 2

/-- The number with a fraction of a text. -/
def realOf? (cs : List Char) : Option UInt64 := do
  let (negative, body) := takeSign ((ungrouped cs).flatMap lower)
  let sign (bits : UInt64) : UInt64 := if negative then Binary64.opposite bits else bits
  if body = ".inf".toList then return Binary64.infinity negative
  else if body = ".nan".toList then return notANumber
  else
    match cutAt ':' body with
    | [_] => return sign (← realNumber? body)
    | parts =>
      let parts ← parts.mapM realNumber?
      return sign (sixtiesSum 1 0 (parts.reverse.map Float.ofBits)).toBits

/-- The value of a text that has some type.  A text that was given its type by a tag need not suit
it, and some of these texts are not looked out for: a word that says neither yes nor no, a number
without a character, and a moment that is none. -/
def NodeType.value (cs : List Char) : NodeType → Except ReadFault Value
  | .text => .ok (.text (String.ofList cs))
  | .null => .ok .null
  | .truth =>
    match truthWords.lookup (String.ofList (cs.flatMap lower)) with
    | some b => .ok (.truth b)
    | none => .error (.broken .missingWord)
  | .whole =>
    if (takeSign (ungrouped cs)).2.isEmpty then .error (.broken .missingCharacter)
    else ReadFault.orUnreadable ((wholeOf? cs).map .whole)
  | .real =>
    if (ungrouped cs).isEmpty then .error (.broken .missingCharacter)
    else ReadFault.orUnreadable ((realOf? cs).map .real)
  | .bytes => ReadFault.orUnreadable ((Base64.decode? cs).map .bytes)
  | .time =>
    match moment? (withoutLastBreak cs) with
    | none => .error (.broken .missingOperation)
    | some m => if m.exists? then .ok (.moment m) else .error .unreadable
  | _ => .error .unreadable

end Yaml
end BeanBuilder
