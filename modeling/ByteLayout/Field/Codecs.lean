import ByteLayout.Field.Encode

/-! # Codecs

Codecs for fields of the caller's own: some read and write ordinary values, others
resize the buffer, tell where they are, or fail in a way of the caller's choice.
-/
namespace ByteLayout

def LayoutFault.ofArguments (kind : LayoutFault) (arguments : List Value) : Fault :=
  match arguments with
  | [chain] => given chain []
  | [chain, message] => given chain (if message.truthy then message.plain else [])
  | _ => .bare .wrongType
where
  given (chain : Value) (message : Text) : Fault :=
    match chain.items with
    | .ok names => .layout kind names (.said message)
    | .error fault => fault

def LayoutFault.checkMessage (chain : List Value) (message : Value) : Except Fault Unit :=
  if (Fault.location chain).isEmpty && !(message matches .text _) then
    throw (.bare .wrongType)
  else pure ()

def PlainFault.arity? : PlainFault → Option Nat
  | unencodable => some 5
  | badValueCalled "UnicodeDecodeError" => some 5
  | _ => none

def PlainFault.ofArguments (kind : PlainFault) (arguments : List Value) : Fault :=
  if kind.arity?.any (· != arguments.length) then .bare .wrongType else
  let message := match arguments with
    | [] => []
    | [v] => if kind = .noKey then v.shown else v.plain
    | several => Text.of "(" ++ Text.joined (Text.of ", ") (several.map Value.shown) ++ Text.of ")"
  .plain kind (.said message)

namespace Codec

def setByte (buffer : Bytes) (offset : Int) (v : Value) : Except Fault Bytes := do
  if isRemote offset then throw (.bare .outOfRange)
  let b ← v.byteOf
  match index? buffer.length offset with
  | some i => return buffer.set i b
  | none => throw (.bare .outOfRange)

def decodeItem (row : Row) (offset : Int) (_ : ByteOrder) : Except Fault Value := row.item offset

def byte : Codec where
  decode := decodeItem
  encode buffer offset v _ := setByte buffer offset v

def single : Codec where
  decode row offset order := do Field.decodeNumber format (← row.stored) offset order
  encode := Field.putNumber format
where
  format : Format := ⟨"f", [⟨.real Ieee.single, 1⟩]⟩

def threeBytes (v : Value) : Except Fault Nat :=
  match v.asInt?, v with
  | some n, _ => if 0 ≤ n ∧ n < byteSpan 3 then pure n.toNat else throw (.bare .tooLarge)
  | none, v => throw (v.callFault "to_bytes")

def uint24 : Codec where
  decode row offset order := do
    let raw ← (← row.cut offset (offset + 3)).content
    return .int (order.read raw)
  encode buffer offset v order := do
    return splice buffer offset (offset + 3) (order.write 3 (← threeBytes v))
  checkValue v := do
    let _ ← threeBytes v

def twoItems (v : Value) : Except Fault (Value × Value) := do
  return (← v.item 0, ← v.item 1)

def pair (copied : Bool) : Codec where
  decode row offset _ := do
    let a ← row.item offset
    let b ← row.item (offset + 1)
    return .list [a, b]
  encode buffer offset v _ := do
    let (a, b) ← twoItems v
    let buffer ← setByte buffer offset a
    setByte buffer (offset + 1) b
  copy? := if copied then some fun v => v.items.map .list else none
  checkValue v := do
    let _ ← twoItems v

def doubling : Codec where
  decode := decodeItem
  encode buffer offset v _ := do
    let b ← v.byteOf
    return splice buffer offset (offset + 1) [b, b]

def removing : Codec where
  decode := decodeItem
  encode buffer offset _ _ :=
    match index? buffer.length offset with
    | some i => pure (buffer.eraseIdx i)
    | none => throw (.bare .outOfRange)

/-- Reads as its own place, and writes a byte that depends on nothing else. -/
def position : Codec where
  decode row offset order := place row (.int offset) order
  encode buffer offset _ order :=
    let n := if order.isLittle then offset + 1 else 255 - offset
    setByte buffer offset (.int (n % 256))
  decodeOff := place
where
  place (row : Row) (offset : Value) (order : ByteOrder) : Except Fault Value := do
    return .list [offset, .bool order.isLittle, .int (← row.length)]

def fail (named : Text → Option (LayoutFault ⊕ PlainFault)) (v : Value) : Except Fault Unit :=
  match v with
  | .list (.text name :: arguments) =>
    match named name with
    | some (.inl kind) => throw (kind.ofArguments arguments)
    | some (.inr kind) => throw (kind.ofArguments arguments)
    | none => pure ()
  | _ => pure ()

def failing (named : Text → Option (LayoutFault ⊕ PlainFault)) : Codec where
  decode row offset _ := do
    let v ← row.item offset
    match (List.range 6).find? fun (n : Nat) => Value.equal v (.int n) with
    | some 1 => throw (.plain .badValue (.said (Text.of "bad byte")))
    | some 2 => throw (.plain .noKey (.said (Text.of "'k'")))
    | some 3 => throw (.layout .unpack [.ofString "inner"] (.said (Text.of "refused")))
    | some 4 => throw (.layout .pack [] (.said (Text.of "odd")))
    | some 5 => throw (.layout .general [.ofString "a", .ofString "b"] (.said []))
    | _ => return v
  encode buffer offset v _ := do
    fail named v
    setByte buffer offset v
  checkValue := fail named

end Codec

end ByteLayout
