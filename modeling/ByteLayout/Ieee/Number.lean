import ByteLayout.Bytes.Order

/-! # Binary floating point numbers

A pattern of bits is read as a sign with a fraction `significand * 2 ^ scale`, and a
number is written by rounding it to the nearest pattern, a half to the even one. All
of it is exact arithmetic on whole numbers.
-/
namespace ByteLayout.Ieee

structure Shape where
  exponent : Nat
  fraction : Nat

def half : Shape := ⟨5, 10⟩
def single : Shape := ⟨8, 23⟩
def double : Shape := ⟨11, 52⟩

inductive Number where
  | nan (negative : Bool) (payload : Nat)
  | infinite (negative : Bool)
  | finite (negative : Bool) (significand : Nat) (scale : Int)
deriving DecidableEq, Repr

namespace Shape

def width (s : Shape) : Nat := (s.exponent + s.fraction + 1) / 8

def bias (s : Shape) : Nat := bitSpan (s.exponent - 1) - 1

def leastScale (s : Shape) : Int := 1 - (s.bias : Int) - s.fraction

def signBit (s : Shape) (negative : Bool) : Nat :=
  if negative then bitSpan (s.exponent + s.fraction) else 0

def infinity (s : Shape) : Nat := (bitSpan s.exponent - 1) * bitSpan s.fraction

def read (s : Shape) (bits : Nat) : Number :=
  let negative := bits.testBit (s.exponent + s.fraction)
  let exponent := bits / bitSpan s.fraction % bitSpan s.exponent
  let fraction := bits % bitSpan s.fraction
  if exponent = bitSpan s.exponent - 1 then
    if fraction = 0 then .infinite negative else .nan negative fraction
  else if exponent = 0 then .finite negative fraction s.leastScale
  else .finite negative (bitSpan s.fraction + fraction) (s.leastScale + exponent - 1)

/-- The whole number nearest to `n / d`, a half going to the even one. -/
def nearest (n d : Nat) : Nat :=
  let q := n / d
  let r := n % d
  if 2 * r > d ∨ 2 * r = d ∧ q % 2 = 1 then q + 1 else q

/-- The pattern nearest to a fraction without its sign where exponents have no end. The
patterns have `fraction` bits below the exponent, and their least numbers the scale `least`. -/
def unbounded (fraction : Nat) (least : Int) (significand : Nat) (scale : Int) : Nat :=
  if significand = 0 then 0
  else
    let unit := max ((Nat.log2 significand : Int) + scale - fraction) least
    let steps :=
      if unit ≤ scale then significand * bitSpan (scale - unit).toNat
      else nearest significand (bitSpan (unit - scale).toNat)
    (unit - least).toNat * bitSpan fraction + steps

/-- The pattern nearest to a fraction without its sign, if it is below infinity. -/
def round? (s : Shape) (significand : Nat) (scale : Int) : Option Nat :=
  let bits := unbounded s.fraction s.leastScale significand scale
  if bits < s.infinity then some bits else none

/-- The pattern nearest to a number. A finite one too large for any pattern has none,
and what is no number keeps its sign and a payload that is not zero. -/
def write? (s : Shape) : Number → Option Nat
  | .nan negative payload => some (s.signBit negative + s.infinity + payload)
  | .infinite negative => some (s.signBit negative + s.infinity)
  | .finite negative significand scale =>
    (s.round? significand scale).map (s.signBit negative + ·)

end Shape

def quiet (s : Shape) (payload : Nat) : Nat :=
  if payload.testBit (s.fraction - 1) then payload else payload + bitSpan (s.fraction - 1)

/-- The double pattern of a half pattern. What is no number loses its payload. -/
def ofHalf (bits : Nat) : Nat :=
  match half.read bits with
  | .nan negative _ => double.signBit negative + double.infinity + bitSpan 51
  | number => (double.write? number).getD 0

def toHalf? (bits : Nat) : Option Nat :=
  match double.read bits with
  | .nan negative _ => some (half.signBit negative + half.infinity + bitSpan 9)
  | number => half.write? number

/-- The double pattern of a single pattern. What is no number keeps its payload. -/
def ofSingle (bits : Nat) : Nat :=
  match single.read bits with
  | .nan negative payload =>
    double.signBit negative + double.infinity + quiet double (payload * bitSpan 29)
  | number => (double.write? number).getD 0

def toSingle? (bits : Nat) : Option Nat :=
  match double.read bits with
  | .nan negative payload =>
    some (single.signBit negative + single.infinity + quiet single (payload / bitSpan 29))
  | number => single.write? number

def ofInt? (n : Int) : Option Nat := double.write? (.finite (n < 0) n.natAbs 0)

namespace Number

def equalsInt : Number → Int → Bool
  | finite negative significand scale, n =>
    let size := n.natAbs
    (significand == 0 && size == 0) || ((negative == decide (n < 0)) &&
      (if 0 ≤ scale then significand * bitSpan scale.toNat == size
        else significand == size * bitSpan (-scale).toNat))
  | _, _ => false

def equals : Number → Number → Bool
  | nan .., _ | _, nan .. => false
  | finite _ 0 _, finite _ 0 _ => true
  | a, b => a == b

def truncate? : Number → Option Int
  | finite negative significand scale =>
    let size := if 0 ≤ scale then significand * bitSpan scale.toNat
      else significand / bitSpan (-scale).toNat
    some (if negative then -(size : Int) else size)
  | _ => none

def belowInt : Number → Int → Bool
  | nan .., _ => false
  | infinite negative, _ => negative
  | finite negative significand scale, n =>
    let signed : Int := if negative then -(significand : Int) else significand
    if 0 ≤ scale then signed * bitSpan scale.toNat < n else signed < n * bitSpan (-scale).toNat

def aboveInt : Number → Int → Bool
  | nan .., _ => false
  | infinite negative, _ => !negative
  | finite negative significand scale, n => (finite (!negative) significand scale).belowInt (-n)

def plusInt : Number → Int → Number
  | finite negative significand scale, n =>
    let signed : Int := if negative then -(significand : Int) else significand
    let sum := signed * bitSpan scale.toNat + n * bitSpan (-scale).toNat
    ((double.write? (finite (sum < 0) sum.natAbs (min scale 0))).map double.read).getD
      (infinite (sum < 0))
  | number, _ => number

def floorTo (step : Nat) : Number → Number
  | finite negative significand scale =>
    let signed : Int := if negative then -(significand : Int) else significand
    let multiple := signed * bitSpan scale.toNat / ((step : Int) * bitSpan (-scale).toNat) * step
    finite (multiple < 0) multiple.natAbs 0
  | _ => nan false (bitSpan 51)

def pattern (number : Number) : Nat := (double.write? number).getD double.infinity

end Number

end ByteLayout.Ieee
