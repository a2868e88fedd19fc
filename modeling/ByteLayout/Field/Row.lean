import ByteLayout.Format

/-! # Rows of items

A field is decoded from a row of items. The items of a row of bytes are its bytes, those
of a view are numbers that several bytes make, and those of a value are whatever it
holds. A row can be cut, its items can be taken one by one, and it has a content in bytes.
-/
namespace ByteLayout

namespace Value

def cut (v : Value) (i j : Int) : Except Fault Value :=
  match v with
  | list items => pure (list (slice items i j))
  | text t => pure (text (slice t i j))
  | bytes b => pure (bytes (slice b i j))
  | buffer b => pure (buffer (slice b i j))
  | bits row => pure (bits (slice row i j))
  | bitBuffer row => pure (bitBuffer (slice row i j))
  | _ => throw (.bare .wrongType)

def item (v : Value) (i : Int) : Except Fault Value :=
  let found (item? : Option Value) : Except Fault Value :=
    match item? with
    | some item => pure item
    | Option.none => throw (.bare .outOfRange)
  match v with
  | list items => found (item? items i)
  | text t => found ((item? t i).map fun c => text [c])
  | bytes b | buffer b => found ((item? b i).map fun b => int b.toNat)
  | bits row | bitBuffer row => found ((item? row i).map bool)
  | table entries =>
    match entries.find? fun entry => sameKey entry.1 (int i) with
    | some entry => pure entry.2
    | Option.none => throw (.bare .noKey)
  | record .. | members .. => throw (.bare .noKey)
  | _ => throw (.bare .wrongType)

end Value

structure ItemKind where
  width : Nat
  read : Bytes → Except Fault Value

namespace ItemKind

def ofCode (code : Code) : ItemKind := ⟨code.width, fun b => pure (code.decode .little 1 b)⟩

def code? (letter : Char) : Option Code :=
  match letter with
  | 'l' | 'n' => some (.integer true 8)
  | 'L' | 'N' | 'P' => some (.integer false 8)
  | 'e' | 's' | 'p' | 'x' => none
  | letter => Code.ofLetter? letter

def character : ItemKind where
  width := 4
  read b :=
    let c := ByteOrder.little.read b
    if c < 0x110000 then pure (.text [c]) else throw (.bare .badValue)

/-- The items of a view; a sign before the letter may say that they are those of the
machine. -/
def ofView? (letters : String) : Option ItemKind :=
  match letters.toList with
  | [letter] | ['@', letter] => (code? letter).map ofCode
  | _ => none

def ofArray? (letters : String) : Option ItemKind :=
  match letters.toList with
  | ['u'] => some character
  | [letter] =>
    if ['c', '?', 'n', 'N', 'P'].contains letter then none else (code? letter).map ofCode
  | _ => none

end ItemKind

inductive Row where
  | bytes (bytes : Bytes)
  | view (kind : ItemKind) (bytes : Bytes)
  /-- Parts of that many bytes, none of which can be taken alone. -/
  | grid (part : Nat) (bytes : Bytes)
  /-- Bytes that can only be taken as a whole. -/
  | solid (bytes : Bytes)
  | value (v : Value)

namespace Row

def cut (row : Row) (i j : Int) : Except Fault Row :=
  match row with
  | bytes b => pure (bytes (slice b i j))
  | view kind b => pure (view kind (slice b (kind.width * i) (kind.width * j)))
  | grid part b => pure (grid part (slice b (part * i) (part * j)))
  | solid _ => throw (.bare .wrongType)
  | value v => (v.cut i j).map value

def item (row : Row) (i : Int) : Except Fault Value :=
  match row with
  | bytes b =>
    match item? b i with
    | some b => pure (.int b.toNat)
    | none => throw (.bare .outOfRange)
  | view kind b =>
    match index? (b.length / kind.width) i with
    | some n => kind.read ((b.drop (n * kind.width)).take kind.width)
    | none => throw (.bare .outOfRange)
  | grid .. => throw (.bare .notProvided)
  | solid _ => throw (.bare .wrongType)
  | value v => v.item i

def length (row : Row) : Except Fault Nat :=
  match row with
  | bytes b => pure b.length
  | view kind b => pure (b.length / kind.width)
  | grid part b => pure (b.length / part)
  | solid _ => pure 1
  | value v => v.items.map List.length

/-- The bytes that a row is kept in; a value that is no row of bytes has none. -/
def stored (row : Row) : Except Fault Bytes :=
  match row with
  | bytes b | view _ b | grid _ b | solid b => pure b
  | value v =>
    match v.asBytes? with
    | some b => pure b
    | none => throw (.bare .wrongType)

/-- The bytes that a row gives when it is turned into bytes. -/
def content (row : Row) : Except Fault Bytes :=
  match row with
  | value v => v.content
  | row => row.stored

/-- The bytes that a row gives when it is copied item by item. -/
def copied (row : Row) : Except Fault Bytes :=
  match row with
  | value v => v.copiedBytes
  | row => row.stored

def extent (v : Value) : Except Fault Nat :=
  match v.asInt? with
  | none => throw (.bare .wrongType)
  | some n =>
    if n < -(Value.lengthLimit : Int) ∨ Value.lengthLimit ≤ n then throw (.bare .tooLarge)
    else if n ≤ 0 then throw (.bare .badValue)
    else pure n.toNat

def dimensionLimit : Nat := 64

def shaped (b : Bytes) (shape : List Value) : Except Fault Row := do
  if b.isEmpty then throw (.bare .wrongType)
  if dimensionLimit < shape.length then throw (.bare .badValue)
  let extents ← shape.mapM extent
  let size := extents.foldl (· * ·) 1
  if Value.lengthLimit ≤ size then throw (.bare .badValue)
  if size ≠ b.length then throw (.bare .wrongType)
  match extents with
  | [] => return solid b
  | [_] => return bytes b
  | n :: _ => return grid (b.length / n) b

theorem cut_bytes (b : Bytes) (i j : Int) : (bytes b).cut i j = .ok (bytes (slice b i j)) := rfl

theorem content_bytes (b : Bytes) : (bytes b).content = .ok b := rfl

theorem stored_bytes (b : Bytes) : (bytes b).stored = .ok b := rfl

end Row

end ByteLayout
