import ByteLayout.Fault
import ByteLayout.Value.Equality

/-! # The content of a value

Which bytes or bits a value gives when it is copied into a row: rows give their own,
an integer that many zeros, a list its items.
-/
namespace ByteLayout.Value

def lengthLimit : Nat := bitSpan 63

/-- Fixed rows of bytes are shorter still, as they are kept with a header. -/
def fixedLimit : Nat := lengthLimit - 33

def zeroRow {α : Type} (limit : Nat) (zero : α) (n : Int) : Except Fault (List α) :=
  if n < -(lengthLimit : Int) ∨ limit ≤ n then throw (.bare .tooLarge)
  else if n < 0 then throw (.bare .badValue)
  else pure (List.replicate n.toNat zero)

def items : Value → Except Fault (List Value)
  | list items | members _ items => pure items
  | text t => pure (t.map fun c => text [c])
  | bytes b | buffer b => pure (b.map fun b => int b.toNat)
  | bits row | bitBuffer row => pure (row.map bool)
  | table entries => pure (entries.map Prod.fst)
  | record _ _ entries _ => pure (entries.map fun entry => ofString entry.1)
  | _ => throw (.bare .wrongType)

/-- What is made of the integer that a value gives where an index is asked for. One that gives
none is refused. -/
def withIndex {α : Type} (v : Value) (refusal : PlainFault) (make : Int → Except Fault α) :
    Except Fault α :=
  match v.index? with
  | some (.ok n) => make n
  | some (.error kind) => throw (.bare kind)
  | Option.none => throw (.bare refusal)

theorem withIndex_of_asInt? {α : Type} {v : Value} {n : Int} (h : v.asInt? = some n)
    (refusal : PlainFault) (make : Int → Except Fault α) : v.withIndex refusal make = make n := by
  simp only [withIndex, index?_of_asInt? h]

theorem withIndex_eq_ok {α : Type} {v : Value} {refusal : PlainFault} {make : Int → Except Fault α}
    {a : α} : v.withIndex refusal make = .ok a ↔ ∃ n, v.index? = some (.ok n) ∧ make n = .ok a := by
  unfold withIndex
  cases v.index? with
  | none => exact ⟨nofun, fun ⟨_, h, _⟩ => nomatch h⟩
  | some index =>
    cases index with
    | error kind => exact ⟨nofun, fun ⟨_, h, _⟩ => nomatch h⟩
    | ok n =>
      constructor
      · exact fun h => ⟨n, rfl, h⟩
      · rintro ⟨m, hm, h⟩
        cases hm
        exact h

def byteOf (v : Value) : Except Fault UInt8 :=
  v.withIndex .wrongType fun n =>
    if 0 ≤ n ∧ n < 256 then pure (UInt8.ofNat n.toNat) else throw (.bare .badValue)

def content (v : Value) : Except Fault Bytes :=
  match v with
  | bytes b | buffer b => pure b
  | bits row | bitBuffer row => pure (Bits.toBytes row)
  | list items | members _ items => items.mapM byteOf
  | table entries => entries.mapM (byteOf ·.1)
  | v =>
    match v.index?, v with
    | some (.ok n), _ => zeroRow fixedLimit 0 n
    | some (.error .wrongType), record _ _ [] _ | Option.none, record _ _ [] _ => pure []
    | some (.error kind), _ => throw (.bare kind)
    | Option.none, _ => throw (.bare .wrongType)

/-- The bytes of a value copied item by item, a row of bits one byte for each bit. -/
def copiedBytes (v : Value) : Except Fault Bytes :=
  match v.asBits?, v.index? with
  | some row, _ => pure (row.map fun b => if b then 1 else 0)
  | Option.none, some (.ok n) => zeroRow lengthLimit 0 n
  | Option.none, _ => v.content

/-- The bits of a value: one for each item of a list, eight for each byte, and those that a
text writes. -/
def copiedBits (v : Value) : Except Fault Bits :=
  match v with
  | none => pure []
  | text t => (Bits.ofText t).mapError Fault.bare
  | v =>
    match v.asInt?, v.readAsBits? with
    | some n, _ => if n < 0 then throw (.bare .badValue) else zeroRow lengthLimit false n
    | Option.none, some row => pure row
    | Option.none, Option.none => throw (.bare .wrongType)

/-- Why an operation cannot be called on a value that has none of that name: an item or a
member of the name is no operation. -/
def callFault (v : Value) (operation : String) : Fault :=
  match v with
  | record className _ entries _ =>
    if (entries.lookup operation).isSome then .bare .wrongType
    else .plain .noAttribute (.noSuchAttribute className operation)
  | members _ items =>
    let isNamed : Value → Bool
      | member _ name _ => name == operation
      | _ => false
    .bare (if items.any isNamed then .wrongType else .noAttribute)
  | _ => .bare .noAttribute

end ByteLayout.Value
