import ByteLayout.Field.Decode
import ByteLayout.Layout.Basic

/-! # Unpacking

The whole layout must lie in the buffer, which is checked before any field is decoded.
-/
namespace ByteLayout.Layout

def unpackSlots (layout : Layout) (buffer : Bytes) (start : Nat) :
    List (Nat × Slot) → Logged (List (String × Value))
  | [] => pure []
  | (offset, slot) :: rest => do
    let v ← slot.field.decode (.bytes buffer) ((start : Int) + offset) layout.order
    let more ← layout.unpackSlots buffer start rest
    return (slot.name, v) :: more

def outside (layout : Layout) (size : Nat) (buffer : Bytes) (offset : Value) : Fault :=
  .telling [layout.name] [.int size, offset] (.outside size offset buffer.length)

def unpackWithin (layout : Layout) (size : Nat) (buffer : Bytes) (offset : Int) :
    Logged (Items Value) :=
  if 0 ≤ offset ∧ offset + size ≤ buffer.length then do
    return Items.ofList (← layout.unpackSlots buffer offset.toNat layout.placed)
  else .ofResult (.error (layout.outside size buffer (.int offset)))

def unpack (layout : Layout) (buffer : Bytes) (offset : Int) : Logged (Items Value) :=
  layout.unpackWithin layout.size buffer offset

/-- Whether `size` bytes at an offset of any kind lie in the buffer. An offset that is no
integer can be compared with the ends of the buffer when it is a number. -/
def checkRange (layout : Layout) (size : Nat) (buffer : Bytes) (offset : Value) :
    Except Fault Unit :=
  let inside : Option Bool :=
    match offset.asInt?, offset with
    | some n, _ => some (0 ≤ n ∧ n + size ≤ buffer.length)
    | none, .float pattern =>
      let number := Ieee.double.read pattern
      some (!(number.belowInt 0 || (number.plusInt size).aboveInt buffer.length))
    | none, _ => none
  match inside with
  | some true => .ok ()
  | some false => .error (layout.outside size buffer offset)
  | none => .error (.bare .wrongType)

def unpackOff (layout : Layout) (buffer : Bytes) (start : Ieee.Number) :
    List (Nat × Slot) → Logged (List (String × Value))
  | [] => pure []
  | (offset, slot) :: rest => do
    let place := Value.float (start.plusInt offset).pattern
    let v ← slot.field.decodeAt (.bytes buffer) place layout.order
    let more ← layout.unpackOff buffer start rest
    return (slot.name, v) :: more

def unpackAt (layout : Layout) (size : Nat) (buffer : Bytes) (offset : Value) :
    Logged (Items Value) := do
  layout.checkRange size buffer offset
  match offset.asInt?, offset with
  | some n, _ => layout.unpackWithin size buffer n
  | none, .float pattern => do
    return Items.ofList (← layout.unpackOff buffer (Ieee.double.read pattern) layout.placed)
  | none, _ => .ofResult (.error (.bare .wrongType))

end ByteLayout.Layout
