import ByteLayout.Text.Numeral
import ByteLayout.Value.Printer

/-! # Faults

A layout reports a fault with a chain of names, from the layout down to the field, and
a reason; what fails below a layout is a plain fault of some kind. `Reason.text?` gives
the wording of a reason, if it has one of its own.
-/
namespace ByteLayout

inductive Reason where
  /-- A reason that is told by the kind of the fault alone. -/
  | unworded
  | said (t : Text)
  | badSize (field : Text) (size : Value)
  | outside (size : Nat) (offset : Value) (available : Nat)
  | noBuffer (kind : String)
  | missingValues (names : List String)
  | resized
  | wantsBytes (kind : String)
  | wantsText (field kind : String)
  | textTooLong (length : Nat) (budget : Value)
  | wantsBits (length : Text)
  | wantsName (kind : String)
  | noRoom (size encoding : Value)
  | notProvided (field method : String)
  | negativeOffset (offset : Value)
  | wrongOffset (offset : Value)
  | shortRead (length : Nat) (size offset : Value)
  | unreadable (kind : String)
  | wrongSignature (bytes : Bytes)
  | smallEntries (size : Int)
  | fieldTwice (name : String)
  | noFields (className : String)
  | noLayout (className : String)
  | noSuchAttribute (className name : String)
deriving Inhabited

inductive Fault where
  | layout (kind : LayoutFault) (chain : List Value) (reason : Reason)
  | plain (kind : PlainFault) (reason : Reason)
deriving Inhabited

namespace Reason

def text? : Reason → Option Text
  | unworded => none
  | said t => some t
  | badSize field size =>
    some (Text.of "the size of " ++ field ++ Text.of " must be a positive integer, not " ++
      size.shown)
  | outside size offset available =>
    some (Text.of s!"{size} bytes at offset " ++ offset.plain ++
      Text.of s!" exceed the buffer of {available} bytes")
  | noBuffer kind => some (Text.of s!"'{kind}' doesn't support the buffer protocol")
  | missingValues names =>
    some (Text.of "missing value for field(s) " ++ Text.of (", ".intercalate names))
  | resized => some (Text.of "the encoding changed the size of the buffer")
  | wantsBytes kind => some (Text.of s!"Bytes needs a bytes-like value, not {kind}")
  | wantsText field kind => some (Text.of s!"{field} needs a str, not {kind}")
  | textTooLong length budget =>
    some (Text.of s!"text of {length} bytes doesn't fit in " ++ budget.plain ++ Text.of " bytes")
  | wantsBits length => some (Text.of "Bits needs " ++ length ++ Text.of " bits or an integer")
  | wantsName kind => some (Text.of s!"the partition name must be a str, not {kind}")
  | noRoom size encoding =>
    some (Text.of "CString of " ++ size.plain ++
      Text.of " bytes has no room for the terminator of " ++ encoding.plain)
  | notProvided field method => some (Text.of s!"method {field}.{method}() not implemented")
  | negativeOffset offset => some (Text.of "negative offset " ++ offset.plain)
  | wrongOffset offset =>
    some (Text.of "'" ++ offset.plain ++ Text.of "' is the wrong kind of offset to use")
  | shortRead length size offset =>
    some (Text.of s!"short read: {length} bytes out of " ++ size.plain ++ Text.of " at offset " ++
      offset.plain)
  | unreadable kind => some (Text.of s!"'{kind}' is the wrong kind of object to read from")
  | wrongSignature bytes => some (Text.of "wrong signature " ++ Text.quotedBytes bytes)
  | smallEntries size => some (Text.of s!"partition entries of {size} bytes are too small")
  | fieldTwice name => some (Text.of s!"field {name} is already present")
  | noFields className => some (Text.of s!"'{className}' doesn't define any field")
  | noLayout className =>
    some (Text.of s!"a {className} needs the definition of the struct it belongs to")
  | noSuchAttribute className name =>
    some (Text.of s!"'{className}' has no attribute or field '{name}'")

end Reason

namespace Fault

def bare (kind : PlainFault) : Fault := plain kind .unworded

def isBadValue : Fault → Bool
  | plain kind _ => kind.isBadValue
  | layout .. => false

def unplaced (reason : Reason) : Fault := layout .pack [] reason

/-- A fault of unpacking that tells of numbers. One that has no numeral cannot be told. -/
def telling (chain numbers : List Value) (reason : Reason) : Fault :=
  if numbers.all fun v => v.asInt?.all Text.isWritable then layout .unpack chain reason
  else bare .badValue

theorem telling_of_writable {m n : Int} (hm : Text.isWritable m = true)
    (hn : Text.isWritable n = true) (chain : List Value) (reason : Reason) :
    telling chain [.int m, .int n] reason = .layout .unpack chain reason := by
  have hall : ([Value.int m, .int n].all fun v => v.asInt?.all Text.isWritable) = true := by
    simp only [List.all_cons, List.all_nil, Value.asInt?_int, Option.all_some, hm, hn,
      Bool.and_true]
  exact if_pos hall

def location (chain : List Value) : Text := Text.joined (Text.of ".") (chain.map Value.plain)

def text? : Fault → Option Text
  | layout _ chain reason => reason.text?.map fun message =>
    let place := location chain
    if place.isEmpty then message
    else if message.isEmpty then place
    else place ++ Text.of ": " ++ message
  | plain _ reason => reason.text?

end Fault

end ByteLayout
