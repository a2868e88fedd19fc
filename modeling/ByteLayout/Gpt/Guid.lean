import ByteLayout.Bytes.Hex
import ByteLayout.Value.Content

/-! # GUIDs

A GUID has sixteen bytes in five groups, of which the first three are stored with their
least significant byte first.
-/
namespace ByteLayout.Gpt

def guidGroups (raw : Bytes) : List Bytes :=
  [(raw.take 4).reverse, ((raw.drop 4).take 2).reverse, ((raw.drop 6).take 2).reverse,
    (raw.drop 8).take 2, raw.drop 10]

def guidGroupText (group : Bytes) : List Char :=
  group.flatMap fun b => [Hex.upperDigit (b.toNat / 16), Hex.upperDigit (b.toNat % 16)]

def guidChars (raw : Bytes) : List Char := ['-'].intercalate ((guidGroups raw).map guidGroupText)

def guidText? (raw : Bytes) : Option (List Char) :=
  if raw.length = 16 then some (guidChars raw) else none

/-- Whether a value stands for that many zeros, which are too few or too many. -/
def isOtherLength (v : Value) : Bool :=
  match v.index? with
  | some (.ok n) => n ≠ 16 && -(Value.lengthLimit : Int) ≤ n && n < Value.fixedLimit
  | _ => false

/-- The text of the GUID in a value. Only sixteen zeros are worth making for an integer. -/
def guidTextOf (v : Value) : Except Fault Text :=
  if isOtherLength v then .error (.bare .badValue)
  else do
    let raw ← v.content
    match guidText? raw with
    | some digits => return digits.map Char.toNat
    | none => throw (.bare .badValue)

end ByteLayout.Gpt
