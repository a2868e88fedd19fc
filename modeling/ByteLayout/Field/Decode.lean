import ByteLayout.Field.Basic
import ByteLayout.Logged

/-! # Decoding a field

Rows and texts are read from a slice of the buffer and may come out short; a number has
to lie in the buffer as a whole. Text that is not valid is replaced, a terminated one
ends before its first zero unit.
-/
namespace ByteLayout

/-- Where `size` bytes at the position `i` start, if they lie in a row of `length`. -/
def window? (length size : Nat) (i : Int) : Option Nat :=
  if i < 0 then if i + size ≤ 0 ∧ 0 ≤ i + length then some (i + length).toNat else none
  else if i + size ≤ length then some i.toNat else none

def isRemote (i : Int) : Bool := i < -(Value.lengthLimit : Int) || Value.lengthLimit ≤ i

/-- The units before the first zero unit, and all bytes if there is none. -/
def beforeZeroUnit (unit : Nat) : Nat → Bytes → Bytes
  | 0, raw => raw
  | steps + 1, raw =>
    let head := raw.take unit
    if head.length < unit then raw
    else if head.all (· == 0) then []
    else head ++ beforeZeroUnit unit steps (raw.drop unit)

namespace Enumeration

def warn (e : Enumeration) (v : Value) : Logged Value :=
  match v.asInt?, v with
  | some n, _ => ⟨[⟨e.tag.name, n⟩], .ok v⟩
  | none, .float _ => .ofResult (throw (.bare .badValue))
  | none, _ => .ofResult (throw (.bare .wrongType))

/-- The member of a value. One that is refused as no member's is kept, with a warning. -/
def decode (e : Enumeration) (v : Value) : Logged Value :=
  match e.lookup v with
  | .ok member => pure member
  | .error fault => if fault.isBadValue then e.warn v else .ofResult (.error fault)

end Enumeration

namespace TextShape

/-- The text in the bytes of a slot. An empty slot can be read in an unknown encoding. -/
def decode (shape : TextShape) (raw : Bytes) : Except Fault Text :=
  match raw, shape.findEncoding with
  | raw, .ok encoding => pure (encoding.decode raw)
  | [], .error (.plain .unknownEncoding _) => pure []
  | _, .error fault => throw fault

end TextShape

namespace Field

def decodeNumber (format : Format) (buffer : Bytes) (offset : Int) (order : ByteOrder) :
    Except Fault Value :=
  match window? buffer.length format.size offset with
  | some start => format.decode order ((buffer.drop start).take format.size)
  | none => throw (.bare (if isRemote offset then .tooLarge else .badFormat))

def slot (field : Field) (row : Row) (offset : Int) : Except Fault Row := do
  let n ← field.length
  row.cut offset (offset + n)

def decode (field : Field) (row : Row) (offset : Int) (order : ByteOrder) : Logged Value :=
  match field with
  | blank _ => .ofResult (throw (field.notProvided "decode"))
  | bytes _ => .ofResult do
    let raw ← (← field.slot row offset).copied
    return .buffer raw
  | number _ format none => .ofResult do decodeNumber format (← row.stored) offset order
  | number _ format (some e) => do
    let v ← Logged.ofResult (do decodeNumber format (← row.stored) offset order)
    e.decode v
  | labelled _ format label => .ofResult do
    let _ ← decodeNumber format (← row.stored) offset order
    throw label.fault
  | string shape => .ofResult do
    let raw ← (← field.slot row offset).content
    return .text (← shape.decode raw)
  | cstring shape => .ofResult do
    let raw ← (← field.slot row offset).content
    return .text (shape.encoding.decode (beforeZeroUnit shape.encoding.unit raw.length raw))
  | bits _ => .ofResult do
    let raw ← (← field.slot row offset).content
    return .bitBuffer (Bits.ofBytes (order.arrangeBig raw))
  | custom _ codec => .ofResult (codec.decode row offset order)
  | nested .. => .ofResult (throw (.bare .noAttribute))

/-- Decodes at an offset of any kind. Only a codec can make something of one that is no
integer. -/
def decodeAt (field : Field) (row : Row) (offset : Value) (order : ByteOrder) : Logged Value :=
  match offset.asInt? with
  | some n => field.decode row n order
  | none => .ofResult do
    match field with
    | blank _ => throw (field.notProvided "decode")
    | custom _ codec => codec.decodeOff row offset order
    | nested .. => throw (.bare .noAttribute)
    | field => do
      let _ ← field.size
      throw (.bare .wrongType)

end Field

end ByteLayout
