import ByteLayout.Text.Basic

/-! # UTF-16

Characters beyond the first plane take a pair of surrogate units. A unit of a pair
that stands alone is replaced, and so is a byte left over at the end; a high unit
at the end and the byte left over after it are replaced together.
-/
namespace ByteLayout.Utf16

def isHigh (u : Nat) : Bool := 0xD800 ≤ u && u ≤ 0xDBFF

def isLow (u : Nat) : Bool := 0xDC00 ≤ u && u ≤ 0xDFFF

def encodeChar (c : Nat) : List Nat :=
  if c < 0x10000 then [c]
  else [0xD800 + (c - 0x10000) / 0x400, 0xDC00 + (c - 0x10000) % 0x400]

def writeUnits (order : ByteOrder) (units : List Nat) : Bytes := units.flatMap (order.write 2)

def readUnits (order : ByteOrder) : Bytes → List Nat × Bool
  | a :: b :: rest =>
    let (units, odd) := readUnits order rest
    (order.read [a, b] :: units, odd)
  | [_] => ([], true)
  | [] => ([], false)

def decodeUnits (odd : Bool) : List Nat → Text
  | [] => if odd then [Text.replacement] else []
  | [u] =>
    if isHigh u then [Text.replacement]
    else (if isLow u then Text.replacement else u) :: decodeUnits odd []
  | u :: v :: rest =>
    if isHigh u then
      if isLow v then (0x10000 + (u - 0xD800) * 0x400 + (v - 0xDC00)) :: decodeUnits odd rest
      else Text.replacement :: decodeUnits odd (v :: rest)
    else (if isLow u then Text.replacement else u) :: decodeUnits odd (v :: rest)

def decode (order : ByteOrder) (bytes : Bytes) : Text :=
  let (units, odd) := readUnits order bytes
  decodeUnits odd units

end ByteLayout.Utf16
