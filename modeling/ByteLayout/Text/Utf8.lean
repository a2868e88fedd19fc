import ByteLayout.Text.Basic

/-! # UTF-8

Decoding is a machine that reads one byte at a time and remembers the character it
is in: the bits so far, how many bytes are owed and the range of the next one. A
byte outside that range ends the character with one replacement and is read afresh,
so each maximal invalid part gives a single replacement.
-/
namespace ByteLayout.Utf8

def encodeChar (c : Nat) : Bytes :=
  if c < 0x80 then [UInt8.ofNat c]
  else if c < 0x800 then [UInt8.ofNat (0xC0 + c / 64), UInt8.ofNat (0x80 + c % 64)]
  else if c < 0x10000 then
    [UInt8.ofNat (0xE0 + c / 4096), UInt8.ofNat (0x80 + c / 64 % 64), UInt8.ofNat (0x80 + c % 64)]
  else
    [UInt8.ofNat (0xF0 + c / 262144), UInt8.ofNat (0x80 + c / 4096 % 64),
      UInt8.ofNat (0x80 + c / 64 % 64), UInt8.ofNat (0x80 + c % 64)]

/-- A character that is not complete: `owed` more bytes, the next from `low` to `high`. -/
structure Pending where
  bits : Nat
  owed : Nat
  low : Nat
  high : Nat
deriving DecidableEq, Repr

abbrev Step := Text × Option Pending

def first (b : Nat) : Step :=
  if b < 0x80 then ([b], none)
  else if b < 0xC2 then ([Text.replacement], none)
  else if b < 0xE0 then ([], some ⟨b - 0xC0, 1, 0x80, 0xBF⟩)
  else if b = 0xE0 then ([], some ⟨0, 2, 0xA0, 0xBF⟩)
  else if b = 0xED then ([], some ⟨0xD, 2, 0x80, 0x9F⟩)
  else if b < 0xF0 then ([], some ⟨b - 0xE0, 2, 0x80, 0xBF⟩)
  else if b = 0xF0 then ([], some ⟨0, 3, 0x90, 0xBF⟩)
  else if b < 0xF4 then ([], some ⟨b - 0xF0, 3, 0x80, 0xBF⟩)
  else if b = 0xF4 then ([], some ⟨4, 3, 0x80, 0x8F⟩)
  else ([Text.replacement], none)

def step : Option Pending → Nat → Step
  | none, b => first b
  | some p, b =>
    if p.low ≤ b ∧ b ≤ p.high then
      let bits := p.bits * 64 + b % 64
      if p.owed ≤ 1 then ([bits], none) else ([], some ⟨bits, p.owed - 1, 0x80, 0xBF⟩)
    else
      let (out, next) := first b
      (Text.replacement :: out, next)

def finish : Option Pending → Text
  | none => []
  | some _ => [Text.replacement]

def run : Option Pending → Bytes → Text
  | state, [] => finish state
  | state, b :: rest => (step state b.toNat).1 ++ run (step state b.toNat).2 rest

def decode (bytes : Bytes) : Text := run none bytes

end ByteLayout.Utf8
