import ByteLayout.Ieee.Number
import ByteLayout.Text.Basic

/-! # Decimal texts of doubles

The digits are the fewest that read back as the same double, the nearest of those,
and of two equally near the even ones. They are written with a point while the
decimal exponent is from -4 up to 15, and with an exponent otherwise.
-/
namespace ByteLayout.Ieee

/-- A fraction `numerator / denominator` with the ends of the interval of all fractions
that round to the same double, all over one denominator. -/
structure Rounding where
  low : Nat
  value : Nat
  high : Nat
  denominator : Nat
  closed : Bool

def Rounding.of (significand : Nat) (scale : Int) : Rounding where
  low :=
    let gap := if significand = bitSpan 52 ∧ double.leastScale < scale then 1 else 2
    (4 * significand - gap) * bitSpan (scale - 2).toNat
  value := 4 * significand * bitSpan (scale - 2).toNat
  high := (4 * significand + 2) * bitSpan (scale - 2).toNat
  denominator := bitSpan (2 - scale).toNat
  closed := significand % 2 = 0

def Rounding.magnitude (r : Rounding) : Int :=
  if r.denominator ≤ r.value then ((Nat.toDigits 10 (r.value / r.denominator)).length : Int) - 1
  else
    let reached (j : Nat) : Bool := r.denominator ≤ r.value * Nat.pow 10 (j + 1)
    let steps := ((List.range 400).find? reached).getD 0
    Int.negSucc steps

/-- The nearest multiple of `10 ^ exponent` inside the interval, as its quotient. -/
def Rounding.onGrid? (r : Rounding) (exponent : Int) : Option Nat :=
  let up := Nat.pow 10 (-exponent).toNat
  let step := r.denominator * Nat.pow 10 exponent.toNat
  let below := r.value * up / step
  let inside (d : Nat) : Bool :=
    if r.closed then r.low * up ≤ d * step && d * step ≤ r.high * up
    else r.low * up < d * step && d * step < r.high * up
  let left := r.value * up - below * step
  let right := (below + 1) * step - r.value * up
  match inside below, inside (below + 1) with
  | true, false => some below
  | false, true => some (below + 1)
  | false, false => none
  | true, true =>
    if left < right ∨ left = right ∧ below % 2 = 0 then some below else some (below + 1)

def Rounding.shortest (r : Rounding) : Nat × Int :=
  let top := r.magnitude
  let grids := (List.range 17).filterMap fun (n : Nat) =>
    (r.onGrid? (top - n)).map (·, top - (n : Int))
  grids.headD (0, 0)

def pointed (digits : Nat) (exponent : Int) : List Char × Int :=
  let all := Nat.toDigits 10 digits
  let kept := (all.reverse.dropWhile (· == '0')).reverse
  (kept, all.length + exponent)

def zeros (n : Nat) : List Char := List.replicate n '0'

def digitsText (digits : List Char) (point : Int) : List Char :=
  if -4 < point ∧ point ≤ 16 then
    if point ≤ 0 then '0' :: '.' :: (zeros (-point).toNat ++ digits)
    else
      let whole := digits.take point.toNat
      let rest := digits.drop point.toNat
      whole ++ zeros (point.toNat - whole.length) ++ '.' :: (if rest.isEmpty then ['0'] else rest)
  else
    let exponent := point - 1
    let shown := Nat.toDigits 10 exponent.natAbs
    let mantissa := if digits.length ≤ 1 then digits else digits.take 1 ++ '.' :: digits.drop 1
    mantissa ++ 'e' :: (if exponent < 0 then '-' else '+') ::
      (zeros (2 - shown.length) ++ shown)

def Number.text : Number → Text
  | nan .. => Text.of "nan"
  | infinite negative => Text.of (if negative then "-inf" else "inf")
  | finite negative significand scale =>
    let body :=
      if significand = 0 then ['0', '.', '0']
      else
        let (digits, exponent) := (Rounding.of significand scale).shortest
        let (kept, point) := pointed digits exponent
        digitsText kept point
    (if negative then [45] else []) ++ body.map Char.toNat

def decimal (bits : Nat) : Text := (double.read bits).text

end ByteLayout.Ieee
