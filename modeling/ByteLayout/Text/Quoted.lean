import ByteLayout.Bytes.Hex
import ByteLayout.Text.Printable

/-! # Quoted texts

A text stands between single quotes, or between double ones when it holds a single
quote and no double one. What is not printable is written as an escape.
-/
namespace ByteLayout.Text

def quoteFor (row : List Nat) : Nat := if row.contains 39 && !row.contains 34 then 34 else 39

def escape (mark : Char) (width n : Nat) : Text :=
  92 :: mark.toNat :: (Hex.padded width n).map Char.toNat

def commonEscape? (quote c : Nat) : Option Text :=
  if c = quote ∨ c = 92 then some [92, c]
  else if c = 10 then some [92, 110]
  else if c = 13 then some [92, 114]
  else if c = 9 then some [92, 116]
  else none

def quotedChar (quote c : Nat) : Text :=
  (commonEscape? quote c).getD <|
    if isPrintable c then [c]
    else if c < 0x100 then escape 'x' 2 c
    else if c < 0x10000 then escape 'u' 4 c
    else escape 'U' 8 c

def quoted (t : Text) : Text :=
  let quote := quoteFor t
  quote :: t.flatMap (quotedChar quote) ++ [quote]

def quotedByte (quote b : Nat) : Text :=
  (commonEscape? quote b).getD (if 32 ≤ b ∧ b < 127 then [b] else escape 'x' 2 b)

def quotedBytes (bytes : Bytes) : Text :=
  let row := bytes.map UInt8.toNat
  let quote := quoteFor row
  98 :: quote :: row.flatMap (quotedByte quote) ++ [quote]

/-- Bytes that may be changed: a single quote is escaped even between double ones. -/
def quotedBuffer (bytes : Bytes) : Text :=
  let row := bytes.map UInt8.toNat
  let quote := quoteFor row
  98 :: quote :: row.flatMap (quotedByte 39) ++ [quote]

end ByteLayout.Text
