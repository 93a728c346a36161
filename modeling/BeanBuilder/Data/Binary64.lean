/-!
# Double-precision numbers by their bits

A number is kept as the 64 bits of its double-precision form, so that it can be compared and
reasoned about exactly.  `ofDecimal` is the nearest such number to a decimal fraction, an even
significand winning a tie.  `shortest?` goes the other way: it finds the fewest decimal digits
that read back as the number, the nearest such digits if there are several.

Both work on exact fractions of natural numbers.
-/

namespace BeanBuilder
namespace Binary64

/-- The number `2 ^ n`. -/
def powerOfTwo (n : Nat) : Nat :=
  Nat.pow 2 n

/-- The number `10 ^ n`. -/
def powerOfTen (n : Nat) : Nat :=
  Nat.pow 10 n

/-- What the bits of a number stand for. -/
inductive Parts where
  | infinity (negative : Bool)
  | notANumber
  /-- The number `significand * 2 ^ exponent`, with its sign. -/
  | finite (negative : Bool) (significand : Nat) (exponent : Int)
  deriving DecidableEq, Repr

/-- Takes the bits of a number apart. -/
def parts (bits : UInt64) : Parts :=
  let n : Nat := bits.toNat
  let negative : Bool := n / powerOfTwo 63 = 1
  let biased : Nat := n / powerOfTwo 52 % powerOfTwo 11
  let fraction : Nat := n % powerOfTwo 52
  if biased = 2047 then
    if fraction = 0 then .infinity negative else .notANumber
  else if biased = 0 then .finite negative fraction (-1074)
  else .finite negative (powerOfTwo 52 + fraction) ((biased : Int) - 1075)

/-- The whole number that a number is, if it is one. -/
def whole? (bits : UInt64) : Option Int :=
  match parts bits with
  | .finite negative significand exponent =>
    let unit := powerOfTwo (-exponent).toNat
    let n := significand * powerOfTwo exponent.toNat / unit
    if significand % unit ≠ 0 then none else some (if negative then -(n : Int) else n)
  | _ => none

/-- The bit of the sign. -/
def signBit (negative : Bool) : Nat :=
  if negative then powerOfTwo 63 else 0

/-- The bits of infinity. -/
def infinity (negative : Bool) : UInt64 :=
  UInt64.ofNat (signBit negative + 2047 * powerOfTwo 52)

/-- The bits of what is not a number.  Kind zero is what operations give; the other kinds are values
of their own. -/
def notANumber (kind : Nat) : UInt64 :=
  UInt64.ofNat (2047 * powerOfTwo 52 + powerOfTwo 51 + kind)

/-- Whether a number equals itself: what is not a number does only if it is of a kind of its own. -/
def equalsItself (bits : UInt64) : Bool :=
  match parts bits with
  | .notANumber => bits.toNat % powerOfTwo 51 ≠ 0
  | _ => true

/-- The bits of a number with the other sign. -/
def opposite (bits : UInt64) : UInt64 :=
  bits ^^^ UInt64.ofNat (powerOfTwo 63)

/-- The bits of a significand below `2 ^ 53` with its exponent. -/
def encode (negative : Bool) (significand : Nat) (exponent : Int) : UInt64 :=
  if exponent > 971 then infinity negative
  else if significand < powerOfTwo 52 then UInt64.ofNat (signBit negative + significand)
  else
    let biased := (exponent + 1075).toNat
    UInt64.ofNat (signBit negative + biased * powerOfTwo 52 + (significand - powerOfTwo 52))

/-- A quotient rounded to the nearest whole number, to an even one from the middle. -/
def roundedQuotient (num den : Nat) : Nat :=
  let q := num / den
  let rest := 2 * (num % den)
  if rest < den then q
  else if den < rest then q + 1
  else if q % 2 = 0 then q else q + 1

/-- A fraction divided by a power of two, as a fraction again. -/
def scaled (num den : Nat) (power : Int) : Nat × Nat :=
  if 0 ≤ power then (num, den * powerOfTwo power.toNat) else (num * powerOfTwo (-power).toNat, den)

/-- The number nearest to a positive fraction. -/
def ofFraction (negative : Bool) (num den : Nat) : UInt64 :=
  let guess : Int := (Nat.log2 num : Int) - (Nat.log2 den : Int) - 52
  let exponent :=
    let (n, d) := scaled num den guess
    if n / d < powerOfTwo 52 then guess - 1 else guess
  let exponent := if exponent < -1074 then -1074 else exponent
  let (n, d) := scaled num den exponent
  let significand := roundedQuotient n d
  if significand = powerOfTwo 53 then encode negative (powerOfTwo 52) (exponent + 1)
  else encode negative significand exponent

/-- The number nearest to `digits * 10 ^ exponent`. -/
def ofDecimal (negative : Bool) (digits : Nat) (exponent : Int) : UInt64 :=
  if digits = 0 then UInt64.ofNat (signBit negative)
  else
    let size : Int := (Nat.log2 digits : Int)
    if exponent > 400 then infinity negative
    else if 3 * exponent + size + 1077 < 0 then UInt64.ofNat (signBit negative)
    else if 0 ≤ exponent then ofFraction negative (digits * powerOfTen exponent.toNat) 1
    else ofFraction negative digits (powerOfTen (-exponent).toNat)

/-- A positive fraction `num / den` with the ends of the interval of fractions that read back as
one number, and whether the ends read back too. -/
structure Neighbourhood where
  num : Nat
  low : Nat
  high : Nat
  den : Nat
  closed : Bool

/-- The fractions around a positive number. -/
def neighbourhood (significand : Nat) (exponent : Int) : Neighbourhood :=
  let narrow := significand = powerOfTwo 52 ∧ exponent > -1074
  let up := powerOfTwo (exponent - 2).toNat
  let down := powerOfTwo (2 - exponent).toNat
  { num := 4 * significand * up
    low := (4 * significand - if narrow then 1 else 2) * up
    high := (4 * significand + 2) * up
    den := down
    closed := significand % 2 = 0 }

/-- Whether `digits / scale` lies in the interval, for a scale given as a fraction. -/
def Neighbourhood.holds (n : Neighbourhood) (digits up down : Nat) : Bool :=
  let value := digits * down * n.den
  if n.closed then n.low * up ≤ value && value ≤ n.high * up
  else n.low * up < value && value < n.high * up

/-- The digits on the grid of one power of ten that read back, the nearer ones of two. -/
def Neighbourhood.onGrid? (n : Neighbourhood) (power : Int) : Option Nat :=
  let up := powerOfTen (-power).toNat
  let down := powerOfTen power.toNat
  let below := n.num * up / (n.den * down)
  let above := below + 1
  match n.holds below up down, n.holds above up down with
  | true, false => some below
  | false, true => some above
  | false, false => none
  | true, true =>
    let toBelow := n.num * up - below * down * n.den
    let toAbove := above * down * n.den - n.num * up
    if toBelow < toAbove then some below
    else if toAbove < toBelow then some above
    else if below % 2 = 0 then some below else some above

/-- The first grid with digits that read back, going to finer grids. -/
def Neighbourhood.firstGrid? (n : Neighbourhood) : (grids : Nat) → Int → Option (Nat × Int)
  | 0, _ => none
  | grids + 1, power =>
    match n.onGrid? power with
    | some 0 => n.firstGrid? grids (power - 1)
    | some digits => some (digits, power)
    | none => n.firstGrid? grids (power - 1)

/-- The fewest digits and the power of ten that read back as a positive number. -/
def shortest? (significand : Nat) (exponent : Int) : Option (Nat × Int) :=
  let n := neighbourhood significand exponent
  n.firstGrid? 660 (if exponent + 53 < 0 then (exponent + 53) / 4 + 2 else 310)

end Binary64
end BeanBuilder
