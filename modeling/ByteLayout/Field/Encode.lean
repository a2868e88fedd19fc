import ByteLayout.Field.Decode

/-! # Encoding a field

A value is written into the slice of the buffer that is the field's slot. Bytes and
texts are cut or filled up with zeros to the size of the slot; a terminated text leaves
what follows its zero unit as it was.
-/
namespace ByteLayout

/-- A row is filled up to as many bytes as the buffer has, and to more of them as far as a row
can have them. -/
def fill (n : Int) (raw buffer : Bytes) : Except Fault Bytes :=
  if n.natAbs ≤ buffer.length then pure (padded n raw)
  else if isRemote n || Value.fixedLimit ≤ n then throw (.bare .tooLarge)
  else pure (padded n raw)

/-- A budget that is no integer is exceeded only where it can be compared. -/
def exceeds (length : Nat) (budget : Value) : Bool :=
  match budget with
  | .float pattern => (Ieee.double.read pattern).belowInt length
  | budget =>
    match budget.asInt? with
    | some n => n < length
    | none => false

def TextShape.encode (shape : TextShape) (name : String) (v budget : Value) :
    Except Fault Bytes := do
  let t ← match v with
    | .text t => pure t
    | _ => throw (Fault.unplaced (.wantsText name v.kind))
  let encoding ← shape.findEncoding
  let raw ← match encoding.encode? t with
    | some raw => pure raw
    | none => throw (Fault.bare .unencodable)
  if shape.strict && exceeds raw.length budget then
    throw (Fault.unplaced (.textTooLong raw.length budget))
  match budget.asInt? with
  | some n => return slice raw 0 n
  | none => throw (Fault.bare .wrongType)

def TerminatedShape.budget (shape : TerminatedShape) : Except Fault Value :=
  let unit := shape.encoding.unit
  match shape.size with
  | .float pattern =>
    let rest := (Ieee.double.read pattern).plusInt (-(unit : Int))
    pure (.float (rest.floorTo unit).pattern)
  | size =>
    match size.asInt? with
    | some n =>
      let rest := n - unit
      pure (.int (rest - rest % unit))
    | none => throw (.bare .wrongType)

namespace Field

/-- A value that cannot be turned into bytes is refused by the field itself. -/
def refuse (fault : Fault) : Fault :=
  match fault with
  | .plain .wrongType _ => .unplaced .unworded
  | fault => if fault.isBadValue then .unplaced .unworded else fault

def refuseFormat (fault : Fault) : Fault :=
  match fault with
  | .plain .badFormat _ => .unplaced .unworded
  | fault => fault

def encodeBytes (field : Field) (buffer : Bytes) (offset : Int) (v : Value) :
    Except Fault Bytes := do
  if v.isInt || v.isText then throw (Fault.unplaced (.wantsBytes v.kind))
  let raw ← v.content.mapError refuse
  let n ← field.length.mapError refuse
  let filled ← fill n (slice raw 0 n) buffer
  return splice buffer offset (offset + n) filled

def putNumber (format : Format) (buffer : Bytes) (offset : Int) (v : Value)
    (order : ByteOrder) : Except Fault Bytes := do
  if format.values ≠ 1 then throw (Fault.bare .badFormat)
  match window? buffer.length format.size offset with
  | none => throw (.bare (if isRemote offset then .outOfRange else .badFormat))
  | some start =>
    let raw ← format.encode order v
    let written := splice buffer start (start + format.size) raw
    return match format.overrun? with
    | some skip => written.set (start + skip) 255
    | none => written

def encodeNumber (format : Format) (buffer : Bytes) (offset : Int) (v : Value)
    (order : ByteOrder) : Except Fault Bytes :=
  (putNumber format buffer offset v order).mapError refuseFormat

/-- Eight times a size as it is told, unless it is an integer too large to have a numeral. -/
def eightfold (size : Value) : Except Fault (Option Text) :=
  match size with
  | .float pattern =>
    let tripled := match Ieee.double.read pattern with
      | .finite negative significand scale => Ieee.Number.finite negative significand (scale + 3)
      | other => other
    pure (some (Ieee.decimal tripled.pattern))
  | .text t => pure (some (List.replicate 8 t).flatten)
  | .bytes b => pure (some (Value.bytes (List.replicate 8 b).flatten).plain)
  | .buffer b => pure (some (Value.buffer (List.replicate 8 b).flatten).plain)
  | .bits row => pure (some (Value.bits (List.replicate 8 row).flatten).plain)
  | .bitBuffer row => pure (some (Value.bitBuffer (List.replicate 8 row).flatten).plain)
  | .list items => pure (some (Value.list (List.replicate 8 items).flatten).plain)
  | size =>
    match size.asInt? with
    | some n => pure (if Text.isWritable (8 * n) then some (Text.ofInt (8 * n)) else none)
    | none => throw (.bare .wrongType)

/-- The fault of a value that is no row of as many bits; it cannot be told without a numeral. -/
def wrongBits (length? : Option Text) : Fault :=
  match length? with
  | some length => .unplaced (.wantsBits length)
  | none => .bare .badValue

/-- The bits of an integer in `n` bytes, which a row can have if a buffer has `room` for them. -/
def bitsOfInt (room : Nat) (n i : Int) : Except Fault Bits :=
  if n < 0 then throw (.bare .badValue)
  else if room < n ∧ Value.fixedLimit ≤ n then throw (.unplaced .unworded)
  else if 0 ≤ i ∧ (i = 0 ∨ Nat.log2 i.toNat < 8 * n) then
    pure (Bits.ofNat (8 * n.toNat) i.toNat)
  else throw (.unplaced .unworded)

/-- The row of bits that a value stands for; an integer is one of as many bits as the field has. -/
def bitsFor (field : Field) (room : Nat) (v : Value) : Except Fault (Option Bits) :=
  match v.asInt? with
  | some i => do
    let n ← field.length
    (bitsOfInt room n i).map some
  | none => pure v.asBits?

def encodeBits (field : Field) (buffer : Bytes) (offset : Int) (v : Value)
    (order : ByteOrder) : Except Fault Bytes := do
  let size ← field.size
  let length? ← eightfold size
  let row? ← field.bitsFor buffer.length v
  match row? with
  | none => throw (wrongBits length?)
  | some row =>
    match size with
    | .float pattern =>
      if ((Ieee.double.read pattern).equalsInt (row.length / 8)) && row.length % 8 = 0 then
        throw (Fault.bare .wrongType)
      else throw (wrongBits length?)
    | size =>
      match size.asInt? with
      | some n =>
        if (row.length : Int) = 8 * n then
          return splice buffer offset (offset + n) (order.arrangeBig (Bits.toBytes row))
        else throw (wrongBits length?)
      | none => throw (wrongBits length?)

def encode (field : Field) (buffer : Bytes) (offset : Int) (v : Value) (order : ByteOrder) :
    Except Fault Bytes :=
  match field with
  | blank _ => throw (field.notProvided "encode")
  | bytes _ => field.encodeBytes buffer offset v
  | number _ format members =>
    let raw := match members, v with
      | some e, .member tag _ value => if tag == e.tag then value else v
      | _, _ => v
    encodeNumber format buffer offset raw order
  | labelled _ format label => do
    encodeNumber format buffer offset (← label.written v) order
  | string shape => do
    let size ← field.size
    let raw ← shape.encode field.name v size
    let n ← field.length
    let filled ← fill n raw buffer
    return splice buffer offset (offset + n) filled
  | cstring shape => do
    let _ ← field.size
    let budget ← shape.budget
    let raw ← shape.toTextShape.encode field.name v budget
    let ended := raw ++ List.replicate shape.encoding.unit 0
    return splice buffer offset (offset + ended.length) ended
  | bits _ => field.encodeBits buffer offset v order
  | custom _ codec => codec.encode buffer offset v order
  | nested .. => throw (.bare .noAttribute)

/-- Writes at an offset of any kind. One that is no integer is refused, but what can be written
nowhere is refused first. -/
def encodeAt (field : Field) (buffer : Bytes) (offset v : Value) (order : ByteOrder) :
    Except Fault Bytes :=
  match offset.asInt? with
  | some n => field.encode buffer n v order
  | none => do
    match field with
    | number _ format _ => if format.values ≠ 1 then throw (Fault.unplaced .unworded)
    | labelled _ format label => do
      let _ ← label.written v
      if format.values ≠ 1 then throw (Fault.unplaced .unworded)
    | custom _ codec => codec.checkValue v
    | field => do
      let _ ← field.encode buffer 0 v order
    throw (.bare .wrongType)

end Field

end ByteLayout
