/-!
# Runs of code points

A Unicode property holds of whole stretches of code points, and in the alphabets with
alternating case of every second code point of a stretch.  A `Run` is such a stretch, a
property is a list of runs in ascending order, and membership stops at the first run that
lies beyond the code point.
-/

namespace BeanBuilder
namespace Text

/-- The code points `first`, `first + step`, … up to `last`. -/
structure Run where
  first : Nat
  last : Nat
  step : Nat := 1
  deriving DecidableEq, Repr

/-- Whether a code point lies on a run. -/
def Run.covers (r : Run) (code : Nat) : Bool :=
  r.first ≤ code && code ≤ r.last && (code - r.first) % r.step == 0

/-- Whether a code point lies on one of some runs in ascending order. -/
def covered : List Run → Nat → Bool
  | [], _ => false
  | r :: rest, code =>
    if code < r.first then false
    else if code ≤ r.last then r.covers code
    else covered rest code

/-- A run whose code points are all moved by the same distance, upward or downward. -/
structure Shift where
  run : Run
  distance : Int
  deriving DecidableEq, Repr

/-- The code point that a code point is moved to, itself when no run covers it. -/
def shifted : List Shift → Nat → Nat
  | [], code => code
  | s :: rest, code =>
    if code < s.run.first then code
    else if s.run.covers code then (code + s.distance).toNat
    else shifted rest code

end Text
end BeanBuilder
