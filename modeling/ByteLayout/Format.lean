import ByteLayout.Value.Content

/-! # Packed formats

A format is a row of letters, each with a count before it: integers, floating point
numbers, truth values, rows of bytes, and pads. A field with a format decodes the first
value of the row and can encode a format of exactly one value.
-/
namespace ByteLayout

inductive Code where
  | pad
  | char
  | truth
  | integer (signed : Bool) (width : Nat)
  | real (shape : Ieee.Shape)
  /-- A row of as many bytes as the count says. -/
  | row
  /-- Such a row with its length in the first byte. -/
  | counted

namespace Code

def ofLetter? : Char → Option Code
  | 'x' => some pad
  | 'c' => some char
  | '?' => some truth
  | 'b' => some (integer true 1)
  | 'B' => some (integer false 1)
  | 'h' => some (integer true 2)
  | 'H' => some (integer false 2)
  | 'i' | 'l' => some (integer true 4)
  | 'I' | 'L' => some (integer false 4)
  | 'q' => some (integer true 8)
  | 'Q' => some (integer false 8)
  | 'e' => some (real Ieee.half)
  | 'f' => some (real Ieee.single)
  | 'd' => some (real Ieee.double)
  | 's' => some row
  | 'p' => some counted
  | _ => none

def width : Code → Nat
  | integer _ width => width
  | real shape => shape.width
  | _ => 1

def values (code : Code) (count : Nat) : Nat :=
  match code with
  | pad => 0
  | row | counted => 1
  | _ => count

def inRange (signed : Bool) (width : Nat) (n : Int) : Bool :=
  if signed then -(byteSpan width : Int) ≤ 2 * n && 2 * n < byteSpan width
  else 0 ≤ n && n < byteSpan width

/-- The pattern of a number in the shape; one that is out of reach is refused. -/
def pattern (shape : Ieee.Shape) (v : Value) : Except Fault Nat := do
  let (bits, whole) ← match v with
    | .float bits => pure (bits, false)
    | v =>
      match v.index? with
      | some (.ok n) =>
        match Ieee.ofInt? n with
        | some bits => pure (bits, true)
        | none => throw (Fault.bare .badFormat)
      | _ => throw (Fault.bare .badFormat)
  let narrow := if shape.fraction = 10 then Ieee.toHalf? bits
    else if shape.fraction = 23 then Ieee.toSingle? bits
    else some bits
  match narrow with
  | some n => pure n
  | none => throw (.bare (if whole then .badFormat else .tooLarge))

def encode (order : ByteOrder) (code : Code) (count : Nat) (v : Value) : Except Fault Bytes :=
  match code with
  | pad => pure []
  | char =>
    match v with
    | .bytes [b] => pure [b]
    | _ => throw (.bare .badFormat)
  | truth => pure [if v.truthy then 1 else 0]
  | integer signed width => v.withIndex .badFormat fun n =>
    if inRange signed width n then pure (order.write width (residue width n))
    else throw (.bare .badFormat)
  | real shape => (pattern shape v).map (order.write shape.width)
  | row =>
    match v.asBytes? with
    | some b => pure (fitted count b)
    | none => throw (.bare .badFormat)
  | counted =>
    match v.asBytes? with
    | some b =>
      let kept := b.take (count - 1)
      pure (fitted count (UInt8.ofNat (min kept.length 255) :: kept))
    | none => throw (.bare .badFormat)

def decode (order : ByteOrder) (code : Code) (count : Nat) (slot : Bytes) : Value :=
  match code with
  | pad => .none
  | char => .bytes (slot.take 1)
  | truth => .bool ((slot.take 1).any (· != 0))
  | integer signed width =>
    let n := order.read (slot.take width)
    .int (if signed then signedOfNat width n else n)
  | real shape =>
    let n := order.read (slot.take shape.width)
    .float (if shape.fraction = 10 then Ieee.ofHalf n
      else if shape.fraction = 23 then Ieee.ofSingle n
      else n)
  | row => .bytes (slot.take count)
  | counted =>
    let kept := (slot.take count).drop 1
    .bytes (kept.take ((slot.headD 0).toNat))

end Code

structure FormatItem where
  code : Code
  count : Nat

def FormatItem.size (item : FormatItem) : Nat := item.count * item.code.width

def FormatItem.values (item : FormatItem) : Nat := item.code.values item.count

structure Format where
  text : String
  items : List FormatItem

namespace Format

def isBlank (c : Char) : Bool := c == ' ' || (9 ≤ c.toNat && c.toNat ≤ 13)

/-- The items of a row of letters; `count` is what has been read of the next one's count. -/
def scan? : Option Nat → List Char → Option (List FormatItem)
  | none, [] => some []
  | some _, [] => none
  | count, c :: rest =>
    if c.isDigit then scan? (some (10 * count.getD 0 + (c.toNat - 48))) rest
    else if isBlank c then if count.isNone then scan? none rest else none
    else
      (Code.ofLetter? c).bind fun code =>
        (scan? none rest).map (⟨code, count.getD 1⟩ :: ·)

def size (format : Format) : Nat := total (format.items.map FormatItem.size)

def values (format : Format) : Nat := total (format.items.map FormatItem.values)

def parse (text : String) : Except Fault Format :=
  if text.toList.any fun c => 128 ≤ c.toNat then throw (.bare .unencodable)
  else
    match scan? none text.toList with
    | some items =>
      let format : Format := ⟨text, items⟩
      if format.size < Value.lengthLimit then pure format else throw (.bare .badFormat)
    | none => throw (.bare .badFormat)

/-- How many bytes precede the first value, its code and its count. -/
def first? : List FormatItem → Option (Nat × Code × Nat)
  | [] => none
  | item :: rest =>
    if item.values = 0 then (first? rest).map fun (skip, found) => (item.size + skip, found)
    else some (0, item.code, item.count)

def encode (format : Format) (order : ByteOrder) (v : Value) : Except Fault Bytes :=
  match first? format.items with
  | some (skip, code, count) =>
    if format.values = 1 then do
      let bytes ← code.encode order count v
      return fitted format.size (List.replicate skip 0 ++ bytes)
    else throw (.bare .badFormat)
  | none => throw (.bare .badFormat)

/-- Whether an item is a counted row that has no room for its own length. -/
def isOverrun (item : FormatItem) : Bool := item.code matches .counted && item.count == 0

def overrun? (format : Format) : Option Nat :=
  match first? format.items with
  | some (skip, .counted, 0) => some skip
  | _ => none

def decode (format : Format) (order : ByteOrder) (slot : Bytes) : Except Fault Value :=
  if format.items.any isOverrun then throw (.bare (.foreign "SystemError" false))
  else
    match first? format.items with
    | some (skip, code, count) => pure (code.decode order count (slot.drop skip))
    | none => throw (.bare .outOfRange)

end Format

end ByteLayout
