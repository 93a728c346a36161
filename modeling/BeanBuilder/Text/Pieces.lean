/-!
# Pieces of a text

Cutting a text at a separator, joining pieces again, and looking at the two ends of a text.
All of it works on lists of characters.
-/

namespace BeanBuilder
namespace Text

/-- The pieces between the occurrences of a separator; there is always at least one. -/
def cutAt (sep : Char) : List Char → List (List Char)
  | [] => [[]]
  | c :: rest =>
    if c = sep then [] :: cutAt sep rest
    else match cutAt sep rest with
      | [] => [[c]]
      | piece :: pieces => (c :: piece) :: pieces

/-- The pieces, with a separator text between neighbours. -/
def joinWith (sep : List Char) : List (List Char) → List Char
  | [] => []
  | [piece] => piece
  | piece :: pieces => piece ++ sep ++ joinWith sep pieces

/-- What follows `start` in a text that begins with it. -/
def afterStart? : (start text : List Char) → Option (List Char)
  | [], text => some text
  | _ :: _, [] => none
  | p :: ps, c :: cs => if p = c then afterStart? ps cs else none

/-- Whether a text begins with `start`. -/
def beginsWith (start text : List Char) : Bool :=
  (afterStart? start text).isSome

/-- Whether a text ends with `tail`. -/
def finishesWith (tail text : List Char) : Bool :=
  beginsWith tail.reverse text.reverse

/-- A text without a line feed at its end. -/
def withoutLastBreak (text : List Char) : List Char :=
  if text.getLast? = some '\n' then text.dropLast else text

/-- The pieces of a string between the occurrences of a separator. -/
def cutString (sep : Char) (s : String) : List String :=
  (cutAt sep s.toList).map String.ofList

/-- Strings with a separator between neighbours. -/
def joinStrings (sep : String) : List String → String
  | [] => ""
  | [piece] => piece
  | piece :: pieces => piece ++ sep ++ joinStrings sep pieces

/-- A string repeated. -/
def repeated (unit : String) : Nat → String
  | 0 => ""
  | n + 1 => unit ++ repeated unit n

theorem cutAt_ne_nil (sep : Char) (cs : List Char) : cutAt sep cs ≠ [] := by
  cases cs with
  | nil => simp [cutAt]
  | cons c rest =>
    rw [cutAt]
    split
    · simp
    · split <;> simp

@[simp] theorem afterStart?_append (start text : List Char) :
    afterStart? start (start ++ text) = some text := by
  induction start with
  | nil => rfl
  | cons p ps ih => simp [afterStart?, ih]

theorem eq_append_of_afterStart? {start text rest : List Char}
    (h : afterStart? start text = some rest) : text = start ++ rest := by
  induction start generalizing text with
  | nil => simpa [afterStart?] using h
  | cons p ps ih =>
    cases text with
    | nil => simp [afterStart?] at h
    | cons c cs =>
      rw [afterStart?] at h
      split at h
      · rename_i hp
        rw [ih h, hp]
        rfl
      · simp at h

end Text
end BeanBuilder
