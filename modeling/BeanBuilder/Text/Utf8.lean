import BeanBuilder.Data.Value
import BeanBuilder.Text.Quoted

/-!
# UTF-8

Decoding bytes, with an exact account of the first fault.  A sequence of bytes that cannot go on
is blamed up to the last byte that still fitted: a byte that starts nothing, a start that is
followed by a wrong byte, or a start that the text breaks off in.

`unifyLineEnds` makes every line end a single line feed, as files are read.
-/

namespace BeanBuilder
namespace Text

/-- What is wrong with a sequence of bytes. -/
inductive Utf8Reason where
  | invalidStart
  | invalidContinuation
  | unexpectedEnd
  deriving DecidableEq, Repr

/-- The words for what is wrong. -/
def Utf8Reason.words : Utf8Reason → String
  | .invalidStart => "invalid start byte"
  | .invalidContinuation => "invalid continuation byte"
  | .unexpectedEnd => "unexpected end of data"

/-- The bytes that are no UTF-8: where they begin, the first of them, how many they are. -/
structure Utf8Fault where
  position : Nat
  first : UInt8
  length : Nat
  reason : Utf8Reason
  deriving DecidableEq, Repr

/-- The fault in one line. -/
def Utf8Fault.text (e : Utf8Fault) : String :=
  let place :=
    if e.length = 1 then
      "byte 0x" ++ String.ofList (hexDigits 2 e.first.toNat) ++ " in position "
        ++ Value.wholeText e.position
    else
      "bytes in position " ++ Value.wholeText e.position ++ "-"
        ++ Value.wholeText (e.position + e.length - 1)
  "'utf-8' codec can't decode " ++ place ++ ": " ++ e.reason.words

/-- A sequence that its first byte begins: the bits of that byte, the range of the second byte,
and how many more bytes follow. -/
structure Utf8Lead where
  bits : Nat
  low : Nat := 0x80
  high : Nat := 0xbf
  more : Nat
  deriving DecidableEq, Repr

/-- The sequence that a byte begins. -/
def utf8Lead? (b : Nat) : Option Utf8Lead :=
  if b < 0x80 then some { bits := b, more := 0 }
  else if b < 0xc2 then none
  else if b < 0xe0 then some { bits := b - 0xc0, more := 1 }
  else if b = 0xe0 then some { bits := 0, low := 0xa0, more := 2 }
  else if b = 0xed then some { bits := 0xd, high := 0x9f, more := 2 }
  else if b < 0xf0 then some { bits := b - 0xe0, more := 2 }
  else if b = 0xf0 then some { bits := 0, low := 0x90, more := 3 }
  else if b < 0xf4 then some { bits := b - 0xf0, more := 3 }
  else if b = 0xf4 then some { bits := 4, high := 0x8f, more := 3 }
  else none

/-- A sequence under way: its first byte and place, the bits so far, how many bytes it has, the
range of the next byte and how many are still to come. -/
structure Utf8Sequence where
  position : Nat
  first : UInt8
  bits : Nat
  length : Nat
  low : Nat
  high : Nat
  more : Nat

/-- The fault of a sequence that cannot go on. -/
def Utf8Sequence.fault (s : Utf8Sequence) (reason : Utf8Reason) : Utf8Fault :=
  ⟨s.position, s.first, s.length, reason⟩

/-- The characters of some bytes from a position on, within a sequence or between two. -/
def decodeFrom : Option Utf8Sequence → Nat → List UInt8 → Except Utf8Fault (List Char)
  | none, _, [] => .ok []
  | some s, _, [] => .error (s.fault .unexpectedEnd)
  | none, position, b :: rest =>
    match utf8Lead? b.toNat with
    | none => .error ⟨position, b, 1, .invalidStart⟩
    | some lead =>
      if lead.more = 0 then
        (decodeFrom none (position + 1) rest).map (Char.ofNat lead.bits :: ·)
      else
        decodeFrom (some ⟨position, b, lead.bits, 1, lead.low, lead.high, lead.more⟩)
          (position + 1) rest
  | some s, position, b :: rest =>
    if s.low ≤ b.toNat ∧ b.toNat ≤ s.high then
      let bits := s.bits * 64 + (b.toNat - 0x80)
      if s.more = 1 then
        (decodeFrom none (position + 1) rest).map (Char.ofNat bits :: ·)
      else
        let s := { s with
          bits, length := s.length + 1, low := 0x80, high := 0xbf, more := s.more - 1 }
        decodeFrom (some s) (position + 1) rest
    else .error (s.fault .invalidContinuation)

/-- The text that some bytes encode. -/
def decodeUtf8 (bytes : ByteArray) : Except Utf8Fault (List Char) :=
  decodeFrom none 0 bytes.toList

/-- A text with every line end made a single line feed. -/
def unifyLineEnds : List Char → List Char
  | [] => []
  | '\r' :: '\n' :: rest => '\n' :: unifyLineEnds rest
  | '\r' :: rest => '\n' :: unifyLineEnds rest
  | c :: rest => c :: unifyLineEnds rest

end Text
end BeanBuilder
