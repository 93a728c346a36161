import BeanBuilder.Data.Value
import BeanBuilder.Text.Quoted

/-!
# Values in messages

How messages show a value: a text as it is, and everything else with its kind to be seen from its
form, texts within it in quotes.  A collection within itself is shown by three dots in its
brackets.
-/

namespace BeanBuilder
namespace Value

/-- The spelling of numbers in messages that are no decimal fractions. -/
def shownSpecial : SpecialNumbers :=
  ⟨"inf", "nan"⟩

/-- A byte within quotes of some kind. -/
def shownByte (quote : Char) (byte : UInt8) : List Char :=
  let n := byte.toNat
  let c := Char.ofNat n
  if c = '\\' ∨ c = quote then ['\\', c]
  else if c = '\n' then ['\\', 'n']
  else if c = '\r' then ['\\', 'r']
  else if c = '\t' then ['\\', 't']
  else if 0x20 ≤ n ∧ n < 0x7f then [c]
  else '\\' :: 'x' :: Text.hexDigits 2 n

/-- Bytes in quotes behind a letter: in double quotes if they hold single ones alone. -/
def shownBytes (data : List UInt8) : String :=
  let holds (c : Char) : Bool := data.any fun byte => byte.toNat = c.toNat
  let quote := if holds '\'' && !holds '"' then '"' else '\''
  String.ofList ('b' :: quote :: data.flatMap (shownByte quote) ++ [quote])

/-- The form of a collection within itself. -/
def dots : Value → String
  | .mapping _ => "{...}"
  | .set _ => "set(...)"
  | _ => "[...]"

mutual

/-- A value within other ones, the anchored collections around it being shown by their dots. -/
def within (around : List (Nat × String)) : Value → String
  | .null => "None"
  | .truth b => if b then "True" else "False"
  | .whole n => wholeText n
  | .real bits => realText shownSpecial bits
  | .text s => Text.quoted s
  | .bytes data => shownBytes data
  | .moment m => m.within
  | .list items => "[" ++ itemsWithin around items ++ "]"
  | .pair a b => "(" ++ a.within around ++ ", " ++ b.within around ++ ")"
  | .set members =>
    if members.isEmpty then "set()" else r"{" ++ itemsWithin around members ++ r"}"
  | .mapping entries => r"{" ++ entriesWithin around entries ++ r"}"
  | .anchored id _ v =>
    match around.lookup id with
    | some dots => dots
    | none => v.within ((id, v.dots) :: around)
  | .again id => (around.lookup id).getD "..."

/-- Values with commas between them. -/
def itemsWithin (around : List (Nat × String)) : List Value → String
  | [] => ""
  | v :: rest =>
    v.within around ++ (if rest.isEmpty then "" else ", ") ++ itemsWithin around rest

/-- The entries of a mapping with commas between them. -/
def entriesWithin (around : List (Nat × String)) : List (Value × Value) → String
  | [] => ""
  | (k, v) :: rest =>
    k.within around ++ ": " ++ v.within around ++ (if rest.isEmpty then "" else ", ")
      ++ entriesWithin around rest

end

/-- A value as messages show it. -/
def shown : Value → String
  | .text s => s
  | .moment m => m.text
  | v => v.within []

end Value
end BeanBuilder
