import ByteLayout.Enumeration
import ByteLayout.Field.Row
import ByteLayout.Text.Encoding

/-! # Fields

A field knows how many bytes it takes and how its value is written into them. It holds
no data and may stand in any number of layouts. Its size may be any value: only a layout
asks for a positive integer.
-/
namespace ByteLayout

/-- A codec of the caller's own. It is given the whole row or buffer and the place of the
field, and may do with the buffer what it likes. -/
structure Codec where
  decode : Row → Int → ByteOrder → Except Fault Value
  encode : Bytes → Int → Value → ByteOrder → Except Fault Bytes
  /-- How a value is copied, unless it is shared. -/
  copy? : Option (Value → Except Fault Value) := none
  /-- What is decoded at an offset that is no integer. -/
  decodeOff : Row → Value → ByteOrder → Except Fault Value := fun _ _ _ => throw (.bare .wrongType)
  /-- Refuses what is not encoded at any offset. -/
  checkValue : Value → Except Fault Unit := fun _ => pure ()

/-- A text of a given size. A strict one refuses a text that does not fit, another cuts it. -/
structure TextShape where
  size : Value
  encodingName : Value
  strict : Bool

def Encoding.ofName (name : Value) : Except Fault Encoding :=
  match name with
  | .text t =>
    match t.toString? with
    | none => throw (.bare .unencodable)
    | some name =>
      if !isName name then throw (.bare .badValue)
      else
        match named? name with
        | some encoding => pure encoding
        | none => throw (.bare .unknownEncoding)
  | _ => throw (.bare .wrongType)

def TextShape.findEncoding (shape : TextShape) : Except Fault Encoding :=
  Encoding.ofName shape.encodingName

structure TerminatedShape extends TextShape where
  encoding : Encoding
  known : toTextShape.findEncoding = .ok encoding
  roomy : ∀ n, size.asInt? = some n → 0 < n → (encoding.unit : Int) ≤ n

/-- What may stand in the place of the enumeration of a number without being one. -/
inductive Label where
  /-- A class of records, with the names of the classes whose records are among its own. -/
  | ofClass (name : String) (covered : List String) (fault : Fault)
  /-- An object that is no class, with the text of its name if it has one. -/
  | ofObject (name : Except Fault Text)

namespace Label

def name : Label → Except Fault Text
  | ofClass name .. => pure (Text.of name)
  | ofObject name => name

def fault : Label → Fault
  | ofClass _ _ fault => fault
  | ofObject _ => .bare .wrongType

/-- What is written for a value: for a record of the class the value it has under that name. -/
def written (label : Label) (v : Value) : Except Fault Value :=
  match label, v with
  | ofClass _ covered _, .record className _ entries _ =>
    if !covered.contains className then pure v
    else
      match entries.lookup "value" with
      | some value => pure value
      | none => throw (.plain .noAttribute (.noSuchAttribute className "value"))
  | ofClass .., v => pure v
  | ofObject _, _ => throw (.bare .wrongType)

end Label

inductive Field where
  /-- A field that has at most a size. -/
  | blank (size : Value)
  | bytes (size : Value)
  | number (name : String) (format : Format) (members : Option Enumeration)
  /-- A number with something in the place of its enumeration. -/
  | labelled (name : String) (format : Format) (label : Label)
  | string (shape : TextShape)
  | cstring (shape : TerminatedShape)
  | bits (size : Value)
  | custom (size : Value) (codec : Codec)
  /-- A layout in the place of a field: it has a size, but nothing can be done with it. -/
  | nested (layout : Value) (size : Nat)

namespace Field

def name : Field → String
  | blank _ => "Field"
  | bytes _ => "Bytes"
  | number name _ _ | labelled name _ _ => name
  | string _ => "String"
  | cstring _ => "CString"
  | bits _ => "Bits"
  | custom _ _ => "Custom"
  | nested layout _ => layout.kind

def declared : Field → Value
  | blank size | bytes size | bits size | custom size _ => size
  | number _ format _ | labelled _ format _ => .int format.size
  | string shape => shape.size
  | cstring shape => shape.size
  | nested _ size => .int size

def notProvided (field : Field) (method : String) : Fault :=
  .plain .notProvided (.notProvided field.name method)

def size (field : Field) : Except Fault Value :=
  match field.declared with
  | .none => throw (field.notProvided "_get_size")
  | size => pure size

def length (field : Field) : Except Fault Int := do
  let size ← field.size
  match size.asInt? with
  | some n => pure n
  | none => throw (.bare .wrongType)

def shown (field : Field) : Except Fault Text :=
  match field with
  | number name format members =>
    let members := members.map fun e => s!", enum={e.tag.name}"
    pure (Text.of s!"<{name}(" ++ Text.quoted (Text.of format.text) ++
      Text.of (members.getD "") ++ Text.of ")>")
  | labelled name format label => do
    return Text.of s!"<{name}(" ++ Text.quoted (Text.of format.text) ++ Text.of ", enum=" ++
      (← label.name) ++ Text.of ")>"
  | nested layout _ => pure layout.shown
  | field => do
    let size ← field.size
    return Text.of s!"<{field.name}(" ++ size.plain ++ Text.of ")>"

def integer (name : String) (signed : Bool) (width : Nat) (letter : String)
    (members : Option Enumeration) : Field :=
  number name ⟨letter, [⟨.integer signed width, 1⟩]⟩ members

def uint8 := integer "UInt8" false 1 "B"
def int8 := integer "Int8" true 1 "b"
def uint16 := integer "UInt16" false 2 "H"
def int16 := integer "Int16" true 2 "h"
def uint32 := integer "UInt32" false 4 "I"
def int32 := integer "Int32" true 4 "i"
def uint64 := integer "UInt64" false 8 "Q"
def int64 := integer "Int64" true 8 "q"

def packed (format : String) (members : Option Enumeration) : Except Fault Field := do
  return number "StructField" (← Format.parse format) members

def terminated (shape : TextShape) : Except Fault Field :=
  match known : shape.findEncoding with
  | .error fault => throw fault
  | .ok encoding =>
    match sized : shape.size.asInt? with
    | none => pure (cstring ⟨shape, encoding, known, fun n h => by rw [sized] at h; cases h⟩)
    | some n =>
      if room : 0 < n → (encoding.unit : Int) ≤ n then
        pure (cstring ⟨shape, encoding, known, fun m h hm => by
          rw [sized] at h
          cases h
          exact room hm⟩)
      else throw (.plain .badValue (.noRoom shape.size shape.encodingName))

def sharesCopies : Field → Bool
  | bytes _ | bits _ | nested .. => false
  | custom _ codec => codec.copy?.isNone
  | _ => true

/-- A value equal to the given one that shares nothing with it that can be changed. -/
def copy (field : Field) (v : Value) : Except Fault Value :=
  match field with
  | bytes _ => v.copiedBytes.map .buffer
  | bits _ => v.copiedBits.map .bitBuffer
  | custom _ codec =>
    match codec.copy? with
    | some copy => copy v
    | none => pure v
  | nested .. => throw (.bare .noAttribute)
  | _ => pure v

end Field

end ByteLayout
