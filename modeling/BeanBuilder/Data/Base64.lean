/-!
# Base 64

Bytes written with sixty-four characters, six bits each.  Reading passes over all other characters.
It ends at the padding, which has to fill up the last group of four characters.
-/

namespace BeanBuilder
namespace Base64

/-- The characters, in the order of their values. -/
def alphabet : List Char :=
  "ABCDEFGHIJKLMNOPQRSTUVWXYZabcdefghijklmnopqrstuvwxyz0123456789+/".toList

/-- The value of a character. -/
def value? (c : Char) : Option Nat :=
  alphabet.idxOf? c

/-- The bytes of a text from a place in a group of four characters on.  `held` are the bits that are
still to be used, and `pads` is the number of marks of padding just before. -/
def decodeFrom? (held place pads : Nat) : List Char → Option (List UInt8)
  | [] => if place = 0 then some [] else none
  | c :: rest =>
    if c = '=' then
      if place < 2 then decodeFrom? held place pads rest
      else if 4 ≤ place + pads + 1 then some []
      else decodeFrom? held place (pads + 1) rest
    else
      match value? c, place with
      | none, _ => decodeFrom? held place pads rest
      | some n, 0 => decodeFrom? n 1 0 rest
      | some n, 1 => (decodeFrom? (n % 16) 2 0 rest).map (UInt8.ofNat (held * 4 + n / 16) :: ·)
      | some n, 2 => (decodeFrom? (n % 4) 3 0 rest).map (UInt8.ofNat (held * 16 + n / 4) :: ·)
      | some n, _ => (decodeFrom? 0 0 0 rest).map (UInt8.ofNat (held * 64 + n) :: ·)

/-- The bytes of a text, which has to be ASCII. -/
def decode? (cs : List Char) : Option (List UInt8) :=
  if cs.all fun c => c.toNat < 128 then decodeFrom? 0 0 0 cs else none

/-- The character with a value. -/
def digit (n : Nat) : Char :=
  alphabet.getD n '='

/-- Bytes as a text. -/
def encode : List UInt8 → List Char
  | [] => []
  | [a] => [digit (a.toNat / 4), digit (a.toNat % 4 * 16), '=', '=']
  | [a, b] =>
    [digit (a.toNat / 4), digit (a.toNat % 4 * 16 + b.toNat / 16), digit (b.toNat % 16 * 4), '=']
  | a :: b :: c :: rest =>
    digit (a.toNat / 4) :: digit (a.toNat % 4 * 16 + b.toNat / 16)
      :: digit (b.toNat % 16 * 4 + c.toNat / 64) :: digit (c.toNat % 64) :: encode rest

end Base64
end BeanBuilder
