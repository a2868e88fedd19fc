import ByteLayout.Ieee.Number
import ByteLayout.Text.Numeral

/-! # Decimal numerals of doubles

A numeral may have a fraction and a decimal exponent, and it is read as the nearest double;
one above them all is infinite.
-/
namespace ByteLayout.Ieee

/-- A fraction of whole numbers as a number that rounds to the same double: more digits than
a double has are kept, and one that tells whether anything is left. -/
def ofRatio (negative : Bool) (n d : Nat) : Number :=
  let k := 64 + Nat.log2 d - Nat.log2 n
  let scaled := n * bitSpan k
  let rest := if scaled % d = 0 then 0 else 1
  .finite negative (2 * (scaled / d) + rest) (-(k + 1 : Nat))

/-- Decimal exponents beyond this make a number infinite or zero. -/
def exponentLimit : Int := 400

def ofDigits (negative : Bool) (digits : List Nat) (exponent : Int) : Number :=
  let digits := digits.dropWhile (· == 0)
  let n := digits.foldl (fun n d => 10 * n + d) 0
  let size : Int := digits.length + exponent
  if n = 0 ∨ size < -exponentLimit then .finite negative 0 0
  else if exponentLimit < size then .infinite negative
  else ofRatio negative (n * Nat.pow 10 exponent.toNat) (Nat.pow 10 (-exponent).toNat)

def digitsOf? (part : Text) : Option (List Nat) :=
  if part.isEmpty then some [] else Text.digits? part

def signed (t : Text) : Bool × Text :=
  match t with
  | 43 :: rest => (false, rest)
  | 45 :: rest => (true, rest)
  | t => (false, t)

def exponentOf? (part : Text) : Option Int :=
  let (negative, digits) := signed part
  (Text.digits? digits).map fun digits =>
    let n : Nat := digits.foldl (fun n d => 10 * n + d) 0
    if negative then -(n : Int) else n

def isWord (t : Text) (word : String) : Bool :=
  (t.map fun c => if 65 ≤ c ∧ c ≤ 90 then c + 32 else c) == Text.of word

def numeral? (t : Text) : Option Number :=
  let (negative, body) := signed t
  let isMark (c : Nat) : Bool := c = 101 || c = 69
  let mantissa := body.takeWhile (!isMark ·)
  let whole := mantissa.takeWhile (· != 46)
  let fraction := mantissa.drop (whole.length + 1)
  if isWord body "inf" || isWord body "infinity" then some (.infinite negative)
  else if isWord body "nan" then some (.nan negative (bitSpan 51))
  else do
    let exponent ← match body.drop mantissa.length with
      | [] => some 0
      | _ :: part => exponentOf? part
    let front ← digitsOf? whole
    let back ← digitsOf? fraction
    if front.isEmpty && back.isEmpty then none
    else some (ofDigits negative (front ++ back) (exponent - (back.length : Int)))

end ByteLayout.Ieee
