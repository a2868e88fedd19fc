import ByteLayout.Bits
import ByteLayout.Ieee.Narrow
import ByteLayout.Ieee.Numeral

/-! # Kinds of rows of bits

A row is written with the digits of a base, or as a number of a kind: whole numbers of a
given length in either byte order, those that tell their own length, and floating point
numbers. Each kind has the lengths that its rows may be given.
-/
namespace ByteLayout.Bits

def digit? (c : Nat) : Option Nat :=
  if 48 ≤ c && c ≤ 57 then some (c - 48)
  else if 97 ≤ c && c ≤ 102 then some (c - 87)
  else if 65 ≤ c && c ≤ 70 then some (c - 55)
  else none

def ofDigits? (w : Nat) (t : Text) : Option Bits := do
  let rows ← t.mapM fun c => do
    let d ← digit? c
    if d < bitSpan w then some (ofNat w d) else none
  return rows.flatten

def base? (c : Nat) : Option (Nat × Nat) :=
  match c with
  | 98 | 66 => some (98, 1)
  | 111 | 79 => some (111, 3)
  | 120 | 88 => some (120, 4)
  | _ => none

/-- A row of digits without the marks of their base, of which any number may be left out. -/
def withoutMarks (letter : Nat) : Text → Text
  | [] => []
  | [c] => [c]
  | c :: d :: rest =>
    if c = 48 ∧ (base? d).any (·.1 == letter) then withoutMarks letter rest
    else c :: withoutMarks letter (d :: rest)

def ofMarked? (letter w : Nat) (t : Text) : Option Bits :=
  ofDigits? w (withoutMarks letter (t.filter (· != 95)))

/-- The bits of `n` in `w` places, if it fits. Those above its own are all the same. -/
def ofInt? (signed : Bool) (w : Nat) (n : Int) : Option Bits :=
  let span : Int := bitSpan w
  let isInside := if signed then -span ≤ 2 * n && 2 * n < span else 0 ≤ n && n < span
  let own := min w (Nat.log2 n.natAbs + 2)
  if 0 < w ∧ isInside then
    some (List.replicate (w - own) (decide (n < 0)) ++ ofNat own (n % bitSpan own).toNat)
  else none

/-- A number after as many zeros as it has more bits than one. -/
def selfDelimiting (n : Nat) : Bits :=
  let k := Nat.log2 (n + 1)
  List.replicate k false ++ ofNat (k + 1) (n + 1)

/-- A number with a zero before each of its bits but the leading one, and a one at its end. -/
def interleaved (n : Nat) : Bits :=
  ((ofNat (Nat.log2 (n + 1)) (n + 1)).flatMap fun b => [false, b]) ++ [true]

/-- An interleaved number with its sign behind it; nothing has none. -/
def interleavedInt (n : Int) : Bits :=
  interleaved n.natAbs ++ (if n = 0 then [] else [decide (n < 0)])

def ordered (order : ByteOrder) (row : Bits) : Bits :=
  if order.isLittle then ofBytes (toBytes row).reverse else row

def ofNumber? (signed : Bool) (order : ByteOrder) (length? : Option Nat) (t : Text) :
    Option Bits := do
  let w ← length?
  let n ← Text.integer? t
  (ofInt? signed w n).map (ordered order)

def double? (t : Text) : Option Nat := do
  let number ← Ieee.numeral? t
  return (Ieee.double.write? number).getD (Ieee.double.infinity + (match number with
    | .finite negative _ _ => Ieee.double.signBit negative
    | _ => 0))

def ofFloat? (order : ByteOrder) (length? : Option Nat) (t : Text) : Option Bits := do
  let pattern ← double? t
  let limit (shape : Ieee.Shape) : Nat :=
    shape.infinity + shape.signBit (pattern.testBit 63)
  let row ← match length? with
    | some 16 => some (ofNat 16 ((Ieee.toHalf? pattern).getD (limit Ieee.half)))
    | some 32 => some (ofNat 32 ((Ieee.toSingle? pattern).getD (limit Ieee.single)))
    | some 64 => some (ofNat 64 pattern)
    | _ => none
  return ordered order row

def ofShortFloat? (order : ByteOrder) (t : Text) : Option Bits :=
  (ofFloat? .big (some 32) t).map fun row => ordered order (row.take 16)

def ofNarrow? (s : Ieee.Narrow) (t : Text) : Option Bits :=
  ((double? t).bind s.ofDouble?).map (ofNat s.width)

def ofBool? (t : Text) : Option Bits :=
  if t = Text.of "1" ∨ t = Text.of "True" then some [true]
  else if t = Text.of "0" ∨ t = Text.of "False" then some [false]
  else none

def whole? (make : Nat → Bits) (n : Int) : Option Bits :=
  if 0 ≤ n then some (make n.toNat) else none

/-- A kind with its names, the lengths that may be given for its rows, and how the values are
read, with the length that is given. -/
structure Kind where
  names : List String
  allows : Nat → Bool
  read : Option Nat → Text → Option Bits

namespace Kind

def anyLength : Nat → Bool := fun _ => true

def ofOrder (names : List String) (signed : Bool) (order : ByteOrder) : Kind :=
  ⟨names, fun n => 0 < n && n % 8 == 0, ofNumber? signed order⟩

/-- A kind of digits that have `w` bits each. The length that is given is not asked for. -/
def ofBase (names : List String) (letter w : Nat) : Kind :=
  ⟨names, (· % w == 0), fun _ => ofMarked? letter w⟩

def ofFloats (names : List String) (order : ByteOrder) : Kind :=
  ⟨names, [16, 32, 64].contains, ofFloat? order⟩

def ofWidth (names : List String) (w : Nat) (read : Text → Option Bits) : Kind :=
  ⟨names, (· == w), fun _ => read⟩

def ofFormat (name : String) (s : Ieee.Narrow) : Kind := ofWidth [name] s.width (ofNarrow? s)

def ofIntegers (name : String) (make : Int → Option Bits) : Kind :=
  ⟨[name], fun _ => false, fun _ t => (Text.integer? t).bind make⟩

def all : List Kind :=
  [⟨["u", "uint"], anyLength, ofNumber? false .big⟩,
    ofOrder ["uintbe"] false .big,
    ofOrder ["uintle", "uintne"] false .little,
    ⟨["i", "int"], anyLength, ofNumber? true .big⟩,
    ofOrder ["intbe"] true .big,
    ofOrder ["intle", "intne"] true .little,
    ofBase ["h", "hex"] 120 4,
    ofBase ["o", "oct"] 111 3,
    ofBase ["b", "bin"] 98 1,
    ofFloats ["f", "float", "floatbe"] .big,
    ofFloats ["floatle", "floatne"] .little,
    ofWidth ["bfloat", "bfloatbe"] 16 (ofShortFloat? .big),
    ofWidth ["bfloatle", "bfloatne"] 16 (ofShortFloat? .little),
    ofWidth ["bool"] 1 ofBool?,
    ofIntegers "ue" (whole? selfDelimiting),
    ofIntegers "se" fun n =>
      some (selfDelimiting (if 0 < n then (2 * n - 1).toNat else (-2 * n).toNat)),
    ofIntegers "uie" (whole? interleaved),
    ofIntegers "sie" fun n => some (interleavedInt n),
    ofFormat "p4binary" .fourBits,
    ofFormat "p3binary" .threeBits,
    ofFormat "e4m3mxfp" .e4m3,
    ofFormat "e5m2mxfp" .e5m2,
    ofFormat "e3m2mxfp" .e3m2,
    ofFormat "e2m3mxfp" .e2m3,
    ofFormat "e2m1mxfp" .e2m1,
    ofWidth ["e8m0mxfp"] 8 fun t => ((double? t).bind Ieee.powerOfTwo?).map (ofNat 8),
    ofWidth ["mxint"] 8 fun t => ((double? t).bind Ieee.sixtyFourths?).bind (ofInt? true 8)]

def named? (name : Text) : Option Kind :=
  all.find? fun kind => kind.names.any fun other => Text.of other == name

end Kind

end ByteLayout.Bits
