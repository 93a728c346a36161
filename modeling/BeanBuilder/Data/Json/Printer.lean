import BeanBuilder.Data.Shown

/-!
# Writing JSON

Values are written with an indentation of two blanks for every level.  All characters outside
printable ASCII are escaped by the sixteen-bit units of their code points.

A pair is written as a list, and a key that is no text as the text of its value.  What JSON has no
form for at all is written as the text that messages show.
-/

namespace BeanBuilder
namespace Json

/-- The spelling of numbers that are no decimal fractions. -/
def special : Value.SpecialNumbers :=
  ⟨"Infinity", "NaN"⟩

/-- The escape of one sixteen-bit unit. -/
def unitEscape (n : Nat) : List Char :=
  '\\' :: 'u' :: Text.hexDigits 4 n

/-- One character of a string. -/
def escaped (c : Char) : List Char :=
  if c = '"' then ['\\', '"']
  else if c = '\\' then ['\\', '\\']
  else if c = '\n' then ['\\', 'n']
  else if c = '\r' then ['\\', 'r']
  else if c = '\t' then ['\\', 't']
  else if c = '\x0c' then ['\\', 'f']
  else if c = '\x08' then ['\\', 'b']
  else
    let n := c.toNat
    if 0x20 ≤ n ∧ n ≤ 0x7e then [c]
    else if n < 0x10000 then unitEscape n
    else
      unitEscape (0xd800 + (n - 0x10000) / 0x400) ++ unitEscape (0xdc00 + (n - 0x10000) % 0x400)

/-- A string in quotes. -/
def stringText (s : String) : String :=
  String.ofList ('"' :: s.toList.flatMap escaped ++ ['"'])

/-- The text of a key. -/
def keyText : Value → String
  | .null => "null"
  | .truth b => if b then "true" else "false"
  | .whole n => Value.wholeText n
  | .real bits => Value.realText special bits
  | k => k.shown

/-- The start of a line at a level. -/
def newLine (level : Nat) : String :=
  "\n" ++ Text.repeated "  " level

mutual

/-- A value whose lines are indented by a level. -/
def valueText (level : Nat) : Value → String
  | .null => "null"
  | .truth b => if b then "true" else "false"
  | .whole n => Value.wholeText n
  | .real bits => Value.realText special bits
  | .text s => stringText s
  | .list items =>
    if items.isEmpty then "[]" else "[" ++ itemsText (level + 1) items ++ newLine level ++ "]"
  | .pair a b =>
    "[" ++ newLine (level + 1) ++ valueText (level + 1) a ++ "," ++ newLine (level + 1)
      ++ valueText (level + 1) b ++ newLine level ++ "]"
  | .mapping entries =>
    if entries.isEmpty then "{}"
    else r"{" ++ entriesText (level + 1) entries ++ newLine level ++ r"}"
  | .anchored _ _ v => valueText level v
  | v => stringText v.shown

/-- The items of a list, each on lines of its own. -/
def itemsText (level : Nat) : List Value → String
  | [] => ""
  | item :: rest =>
    newLine level ++ valueText level item
      ++ (if rest.isEmpty then "" else ",") ++ itemsText level rest

/-- The entries of a mapping, each on lines of its own. -/
def entriesText (level : Nat) : List (Value × Value) → String
  | [] => ""
  | (key, value) :: rest =>
    newLine level ++ stringText (keyText key) ++ ": " ++ valueText level value
      ++ (if rest.isEmpty then "" else ",") ++ entriesText level rest

end

/-- A value as a JSON text. -/
def write (v : Value) : String :=
  valueText 0 v

end Json
end BeanBuilder
