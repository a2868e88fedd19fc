import ByteLayout.Field.Encode
import ByteLayout.Layout.Basic

/-! # Packing

Every declared name must have a value before any field is encoded. The fields are then
encoded in order into a buffer of zeros, if one can be that long, and the first that fails,
or that leaves a buffer of another length, makes the packing fail.
-/
namespace ByteLayout

/-- The fault of a field, told by the layout. A value that was refused is a fault of
packing; what is no refusal is passed on as it is. -/
def Fault.inField (layoutName : Value) (fieldName : String) : Fault → Fault
  | .layout kind chain reason => .layout kind (layoutName :: .ofString fieldName :: chain) reason
  | .plain kind reason =>
    if kind.isRefusal then .layout .pack [layoutName, .ofString fieldName] reason
    else .plain kind reason

namespace Layout

def missing (layout : Layout) (value? : String → Option Value) : List String :=
  layout.names.filter fun name => (value? name).isNone

def packSlot (layout : Layout) (size offset : Nat) (slot : Slot) (v : Value) (buffer : Bytes) :
    Except Fault Bytes :=
  match slot.field.encode buffer offset v layout.order with
  | .error fault => .error (fault.inField layout.name slot.name)
  | .ok packed =>
    if packed.length = size then .ok packed
    else .error (.layout .pack [layout.name, .ofString slot.name] .resized)

def packSlots (layout : Layout) (size : Nat) (value? : String → Option Value) :
    List (Nat × Slot) → Bytes → Except Fault Bytes
  | [], buffer => .ok buffer
  | (offset, slot) :: rest, buffer =>
    match value? slot.name with
    | none => .error (.bare .noKey)
    | some v =>
      match layout.packSlot size offset slot v buffer with
      | .error fault => .error fault
      | .ok packed => packSlots layout size value? rest packed

def packWithin (layout : Layout) (size : Nat) (value? : String → Option Value) :
    Except Fault Bytes :=
  match layout.missing value? with
  | first :: rest =>
    .error (.layout .missing [layout.name, .ofString first] (.missingValues (first :: rest)))
  | [] =>
    if Value.lengthLimit ≤ size then .error (.bare .tooLarge)
    else layout.packSlots size value? layout.placed (List.replicate size 0)

/-- The bytes of the values; names that are not declared play no part. -/
def pack (layout : Layout) (value? : String → Option Value) : Except Fault Bytes :=
  layout.packWithin layout.size value?

end Layout

end ByteLayout
