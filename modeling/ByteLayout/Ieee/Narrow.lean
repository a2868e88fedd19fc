import ByteLayout.Ieee.Number

/-! # Narrow floating point numbers

Numbers of at most eight bits are rounded as if exponents had no end, and a pattern that is
greater than the greatest of its format becomes that one. They are made from halfs, so a
double is rounded twice.
-/
namespace ByteLayout.Ieee

/-- A format by the widths of its exponent and its fraction, the exponent that stands for one
and its greatest pattern. -/
structure Narrow where
  exponent : Nat
  fraction : Nat
  bias : Nat
  greatest : Nat
  /-- The pattern of what is no number. -/
  notANumber? : Option Nat
  /-- Whether there is a zero below zero. -/
  signedZero : Bool

namespace Narrow

def fourBits : Narrow := ⟨4, 3, 8, 0x7F, some 0x80, false⟩

def threeBits : Narrow := ⟨5, 2, 16, 0x7F, some 0x80, false⟩

def e4m3 : Narrow := ⟨4, 3, 7, 0x7E, some 0xFF, true⟩
def e5m2 : Narrow := ⟨5, 2, 15, 0x7B, some 0xFF, true⟩
def e3m2 : Narrow := ⟨3, 2, 3, 0x1F, none, true⟩
def e2m3 : Narrow := ⟨2, 3, 1, 0x1F, none, true⟩
def e2m1 : Narrow := ⟨2, 1, 1, 0x07, none, true⟩

def width (s : Narrow) : Nat := s.exponent + s.fraction + 1

def signBit (s : Narrow) (negative : Bool) (pattern : Nat) : Nat :=
  if negative ∧ (s.signedZero ∨ 0 < pattern) then bitSpan (s.exponent + s.fraction) else 0

/-- The pattern nearest to a number, unless it is none and the format has no pattern for it. -/
def write? (s : Narrow) : Number → Option Nat
  | .nan .. => s.notANumber?
  | .infinite negative => some (s.signBit negative s.greatest + s.greatest)
  | .finite negative significand scale =>
    let least := 1 - (s.bias : Int) - s.fraction
    let pattern := min (Shape.unbounded s.fraction least significand scale) s.greatest
    some (s.signBit negative pattern + pattern)

def ofDouble? (s : Narrow) (pattern : Nat) : Option Nat :=
  let number := double.read pattern
  match number, toHalf? pattern with
  | .finite negative .., none => s.write? (.infinite negative)
  | _, half? => (half?.map half.read).bind s.write?

end Narrow

/-- The exponent of a double that is a power of two, counted from `2 ^ -127` up to `2 ^ 127`.
What is no number has the one after them. -/
def powerOfTwo? (pattern : Nat) : Option Nat :=
  match double.read pattern with
  | .nan .. => some 255
  | _ => (List.range 255).find? fun n => pattern == (Number.finite false 1 (n - 127)).pattern

/-- The number of sixty-fourths nearest to a double, a half going to the even one, within
eight bits. -/
def sixtyFourths? (pattern : Nat) : Option Int :=
  match double.read pattern with
  | .nan .. => none
  | .infinite negative => some (if negative then -128 else 127)
  | .finite negative significand scale =>
    let scale := scale + 6
    let size : Int :=
      if 0 ≤ scale then significand * bitSpan scale.toNat
      else Shape.nearest significand (bitSpan (-scale).toNat)
    some (max (-128) (min 127 (if negative then -size else size)))

end ByteLayout.Ieee
