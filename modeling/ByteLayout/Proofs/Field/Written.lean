import ByteLayout.Field.Encode
import ByteLayout.Layout.Basic
import ByteLayout.Proofs.Format
import ByteLayout.Proofs.Text.Encoding

/-! # What a field reads and writes

The bytes that a built-in field writes depend on nothing but its value, and the value that it
reads on nothing but the bytes of its slot. Each kind of field has one lemma that says what it
has written when it has written something.
-/
namespace ByteLayout

/-- The fields that need no codec of the caller's own. -/
inductive Field.BuiltIn : Field → Prop
  | integer (name : String) (signed : Bool) (width : Nat) (letter : String)
      (members : Option Enumeration) : BuiltIn (.integer name signed width letter members)
  | bytes (size : Value) : BuiltIn (.bytes size)
  | bits (size : Value) : BuiltIn (.bits size)
  | string (shape : TextShape) (encoding : Encoding) (known : shape.findEncoding = .ok encoding) :
      BuiltIn (.string shape)
  | cstring (shape : TerminatedShape) : BuiltIn (.cstring shape)

namespace Field

def unwrapped (members : Option Enumeration) (v : Value) : Value :=
  match members, v with
  | some e, .member tag _ value => if tag == e.tag then value else v
  | _, _ => v

def isTerminated : Field → Bool
  | cstring _ => true
  | _ => false

/-- The bytes that a field of `size` bytes writes for a value, from the start of its slot. -/
def write (field : Field) (size : Nat) (v : Value) (order : ByteOrder) : Except Fault Bytes :=
  match field with
  | bytes _ => do
    if v.isInt || v.isText then throw (Fault.unplaced (.wantsBytes v.kind))
    return padded size ((← v.content.mapError refuse).take size)
  | number _ format members => (format.encode order (unwrapped members v)).mapError refuseFormat
  | string shape => do
    return padded size (← shape.encode field.name v shape.size)
  | cstring shape => do
    let raw ← shape.toTextShape.encode field.name v (← shape.budget)
    return raw ++ List.replicate shape.encoding.unit 0
  | bits declared => do
    let length? ← eightfold declared
    match ← (bits declared).bitsFor size v with
    | some row =>
      if (row.length : Int) = 8 * size then return order.arrangeBig (Bits.toBytes row)
      else throw (wrongBits length?)
    | none => throw (wrongBits length?)
  | field => throw (field.notProvided "encode")

def read (field : Field) (order : ByteOrder) (slot : Bytes) : Logged Value :=
  match field with
  | bytes _ => pure (.buffer slot)
  | number _ format none => .ofResult (format.decode order slot)
  | number _ format (some e) => do
    let v ← Logged.ofResult (format.decode order slot)
    e.decode v
  | string shape => .ofResult do
    return .text (← shape.decode slot)
  | cstring shape =>
    pure (.text (shape.encoding.decode (beforeZeroUnit shape.encoding.unit slot.length slot)))
  | bits _ => pure (.bitBuffer (Bits.ofBytes (order.arrangeBig slot)))
  | field => .ofResult (throw (field.notProvided "decode"))

theorem slotSize?_of_declared {field : Field} {n : Nat} (hd : field.declared = .int n)
    (hn : 0 < n) : field.slotSize? = some n := by
  have hi : (0 : Int) < n := Int.natCast_pos.mpr hn
  simp only [slotSize?, hd, Value.asInt?_int, Option.bind_some, if_pos hi, Int.toNat_natCast]

theorem asInt?_declared {field : Field} {n : Nat} (h : field.slotSize? = some n) :
    field.declared.asInt? = some (n : Int) ∧ 0 < n := by
  unfold slotSize? at h
  split at h
  · cases h
  · obtain ⟨i, hi, hn⟩ := Option.bind_eq_some_iff.mp h
    split at hn
    · cases hn
      refine ⟨?_, by omega⟩
      rw [hi, Int.toNat_of_nonneg (by omega)]
    · cases hn

end Field

theorem isPadded_integer (signed : Bool) (width : Nat) (letter : String) :
    (⟨letter, [⟨.integer signed width, 1⟩]⟩ : Format).IsPadded [] signed width [] :=
  ⟨rfl, fun _ hi => nomatch hi⟩

theorem size_integer (signed : Bool) (width : Nat) (letter : String) :
    (⟨letter, [⟨.integer signed width, 1⟩]⟩ : Format).size = width := by
  rw [(isPadded_integer signed width letter).size]
  exact Nat.zero_add width

/-- A format of one integer writes the bytes of its integer and nothing else. -/
theorem encode_integer (signed : Bool) (width : Nat) (letter : String) (order : ByteOrder)
    (v : Value) :
    (⟨letter, [⟨.integer signed width, 1⟩]⟩ : Format).encode order v =
      (Code.integer signed width).encode order 1 v := by
  rw [(isPadded_integer signed width letter).encode]
  cases (Code.integer signed width).encode order 1 v with
  | error fault => rfl
  | ok raw => exact congrArg Except.ok (List.append_nil raw)

theorem decode_integer (signed : Bool) (width : Nat) (letter : String) (order : ByteOrder)
    (slot : Bytes) :
    (⟨letter, [⟨.integer signed width, 1⟩]⟩ : Format).decode order slot =
      .ok ((Code.integer signed width).decode order 1 slot) :=
  (isPadded_integer signed width letter).decode order slot

theorem exceeds_eq {budget : Value} {n : Nat} (hn : budget.asInt? = some (n : Int))
    (length : Nat) : exceeds length budget = decide (n < length) := by
  unfold exceeds
  split
  · cases hn
  · simp [hn]

/-- A text is written as far as the budget goes, unless it is too long for a strict field. -/
theorem TextShape.encode_eq_ok {shape : TextShape} {name : String} {v budget : Value} {n : Nat}
    (hn : budget.asInt? = some (n : Int)) {raw : Bytes} :
    shape.encode name v budget = .ok raw ↔
      ∃ t encoding full, v = .text t ∧ shape.findEncoding = .ok encoding ∧
        encoding.encode? t = some full ∧ (shape.strict = true → full.length ≤ n) ∧
        raw = full.take n := by
  have hx := exceeds_eq hn
  constructor
  · intro h
    unfold encode at h
    cases v with
    | text t =>
      cases he : shape.findEncoding with
      | error fault =>
        rw [he] at h
        cases h
      | ok encoding =>
        cases hr : encoding.encode? t with
        | none =>
          simp only [he, hr, bind, Except.bind, pure, Except.pure] at h
          cases h
        | some full =>
          simp only [he, hr, hx, hn, bind, Except.bind, pure, Except.pure] at h
          split at h
          · cases h
          · next hs =>
            simp only [slice_zero] at h
            refine ⟨t, encoding, full, rfl, rfl, hr, ?_, (Except.ok.inj h).symm⟩
            intro hst
            simpa [hst] using hs
    | _ => cases h
  · rintro ⟨t, encoding, full, rfl, he, hr, hs, rfl⟩
    have hc : ¬((shape.strict && decide (n < full.length)) = true) := by
      simp only [Bool.and_eq_true, decide_eq_true_eq, not_and, Nat.not_lt]
      exact hs
    unfold encode
    simp only [he, hr, hx, hn, hc, slice_zero, bind, Except.bind, pure, Except.pure,
      Bool.false_eq_true, if_false]

theorem TextShape.length_le_of_encode {shape : TextShape} {name : String} {v budget : Value}
    {n : Nat} (hn : budget.asInt? = some (n : Int)) {raw : Bytes}
    (h : shape.encode name v budget = .ok raw) : raw.length ≤ n := by
  obtain ⟨t, encoding, full, -, -, -, -, rfl⟩ := (encode_eq_ok hn).mp h
  exact List.length_take_le n full

theorem TextShape.map_encode_eq_ok {shape : TextShape} {name : String} {v budget : Value} {n : Nat}
    (hn : budget.asInt? = some (n : Int)) (f : Bytes → Bytes) {raw : Bytes} :
    (shape.encode name v budget).map f = .ok raw ↔
      ∃ t encoding full, v = .text t ∧ shape.findEncoding = .ok encoding ∧
        encoding.encode? t = some full ∧ (shape.strict = true → full.length ≤ n) ∧
        raw = f (full.take n) := by
  constructor
  · intro h
    cases he : shape.encode name v budget with
    | error fault =>
      rw [he] at h
      cases h
    | ok cut =>
      rw [he] at h
      cases h
      obtain ⟨t, encoding, full, hv, hk, hr, hs, rfl⟩ := (encode_eq_ok hn).mp he
      exact ⟨t, encoding, full, hv, hk, hr, hs, rfl⟩
  · rintro ⟨t, encoding, full, hv, hk, hr, hs, rfl⟩
    rw [(encode_eq_ok hn).mpr ⟨t, encoding, full, hv, hk, hr, hs, rfl⟩]
    rfl

namespace TerminatedShape
variable {shape : TerminatedShape} {n : Nat}

def room (shape : TerminatedShape) (n : Nat) : Nat :=
  shape.encoding.unit * ((n - shape.encoding.unit) / shape.encoding.unit)

theorem unit_dvd_room (shape : TerminatedShape) (n : Nat) : shape.encoding.unit ∣ shape.room n :=
  Nat.dvd_mul_right ..

structure HasRoom (shape : TerminatedShape) (n : Nat) : Prop where
  size : shape.size.asInt? = some (n : Int)
  unit_le : shape.encoding.unit ≤ n

theorem hasRoom (h : (Field.cstring shape).slotSize? = some n) : shape.HasRoom n := by
  obtain ⟨hd, hn⟩ := Field.asInt?_declared h
  have hr := shape.roomy n hd (by omega)
  exact ⟨hd, by omega⟩

theorem HasRoom.room_add_unit_le (h : shape.HasRoom n) :
    shape.room n + shape.encoding.unit ≤ n := by
  have hu := h.unit_le
  have hm := Nat.mul_div_le (n - shape.encoding.unit) shape.encoding.unit
  unfold room
  omega

theorem HasRoom.budget_eq (h : shape.HasRoom n) :
    shape.budget = .ok (.int (shape.room n : Nat)) := by
  obtain ⟨hd, hu⟩ := h
  have hb : (n : Int) - shape.encoding.unit - ((n : Int) - shape.encoding.unit) %
      shape.encoding.unit = (shape.room n : Int) := by
    have hm := Int.mul_ediv_add_emod ((n : Int) - shape.encoding.unit) shape.encoding.unit
    have hc : ((n - shape.encoding.unit : Nat) : Int) = (n : Int) - shape.encoding.unit := by omega
    rw [room, Int.natCast_mul, Int.natCast_ediv, hc]
    omega
  unfold budget
  split
  · next hf =>
    rw [hf] at hd
    cases hd
  · simp only [hd, hb]
    rfl

end TerminatedShape

namespace Field

section Written
variable {n : Nat} {v : Value} {order : ByteOrder} {raw : Bytes}

theorem width_eq {name letter : String} {signed : Bool} {width : Nat}
    {members : Option Enumeration}
    (hn : (integer name signed width letter members).slotSize? = some n) : width = n := by
  have hd : ((⟨letter, [⟨.integer signed width, 1⟩]⟩ : Format).size : Int) = n :=
    Option.some.inj (asInt?_declared hn).1
  rw [size_integer] at hd
  omega

theorem mapError_eq_ok {α : Type} {f : Fault → Fault} {x : Except Fault α} {a : α} :
    x.mapError f = .ok a ↔ x = .ok a := by
  cases x with
  | error fault => exact ⟨nofun, nofun⟩
  | ok b => exact Iff.rfl

theorem write_integer_eq_ok {name letter : String} {signed : Bool} {width : Nat}
    {members : Option Enumeration} :
    (integer name signed width letter members).write width v order = .ok raw ↔
      ∃ i, (unwrapped members v).index? = some (.ok i) ∧ Code.inRange signed width i = true ∧
        raw = order.write width (residue width i) := by
  simp only [integer, write, encode_integer, mapError_eq_ok]
  constructor
  · intro h
    obtain ⟨i, hi, hw⟩ := Value.withIndex_eq_ok.mp h
    split at hw
    · next hr =>
      cases hw
      exact ⟨i, hi, hr, rfl⟩
    · cases hw
  · rintro ⟨i, hi, hr, rfl⟩
    exact Value.withIndex_eq_ok.mpr ⟨i, hi, if_pos hr⟩

theorem exists_content_of_write {declared : Value}
    (h : (bytes declared).write n v order = .ok raw) :
    ∃ content, v.content = .ok content ∧ raw = padded n (content.take n) := by
  simp only [write] at h
  split at h
  · cases h
  · cases hc : v.content with
    | error fault =>
      rw [hc] at h
      cases h
    | ok content =>
      rw [hc] at h
      cases h
      exact ⟨content, rfl, rfl⟩

theorem exists_row_of_write {declared : Value} (h : (bits declared).write n v order = .ok raw) :
    ∃ row, (bits declared).bitsFor n v = .ok (some row) ∧ row.length = 8 * n ∧
      raw = order.arrangeBig (Bits.toBytes row) := by
  simp only [write] at h
  cases h8 : eightfold declared with
  | error fault =>
    rw [h8] at h
    cases h
  | ok length? =>
    cases hr : (bits declared).bitsFor n v with
    | error fault =>
      rw [h8, hr] at h
      cases h
    | ok row? =>
      rw [h8, hr] at h
      cases row? with
      | none => cases h
      | some row =>
        simp only [bind, Except.bind] at h
        split at h
        · next hl =>
          cases h
          exact ⟨row, rfl, by omega, rfl⟩
        · cases h

theorem write_string_eq_ok {shape : TextShape} (hs : shape.size.asInt? = some (n : Int)) :
    (string shape).write n v order = .ok raw ↔
      ∃ t encoding full, v = .text t ∧ shape.findEncoding = .ok encoding ∧
        encoding.encode? t = some full ∧ (shape.strict = true → full.length ≤ n) ∧
        raw = padded n (full.take n) := by
  rw [← TextShape.map_encode_eq_ok hs]
  exact Iff.rfl

theorem write_cstring_eq {shape : TerminatedShape} (hn : shape.HasRoom n) :
    (cstring shape).write n v order =
      (shape.toTextShape.encode "CString" v (.int (shape.room n : Nat))).map
        (· ++ List.replicate shape.encoding.unit 0) := by
  simp only [write, name, hn.budget_eq]
  rfl

theorem write_cstring_eq_ok {shape : TerminatedShape} (hn : shape.HasRoom n) :
    (cstring shape).write n v order = .ok raw ↔
      ∃ t encoding full, v = .text t ∧ shape.findEncoding = .ok encoding ∧
        encoding.encode? t = some full ∧ (shape.strict = true → full.length ≤ shape.room n) ∧
        raw = full.take (shape.room n) ++ List.replicate shape.encoding.unit 0 := by
  rw [write_cstring_eq hn]
  exact TextShape.map_encode_eq_ok rfl _

theorem length_write_bytes {size : Value} (h : (bytes size).write n v order = .ok raw) :
    raw.length = n := by
  obtain ⟨content, -, rfl⟩ := exists_content_of_write h
  exact length_padded (List.length_take_le n content)

theorem length_write_bits {size : Value} (h : (bits size).write n v order = .ok raw) :
    raw.length = n := by
  obtain ⟨row, -, hl, rfl⟩ := exists_row_of_write h
  rw [order.length_arrangeBig, Bits.length_toBytes hl]

/-- All but a terminated text fill their slot. -/
theorem length_write_eq {field : Field} (hf : field.BuiltIn) (hn : field.slotSize? = some n)
    (ht : field.isTerminated = false) (h : field.write n v order = .ok raw) : raw.length = n := by
  cases hf with
  | integer name signed width letter members =>
    obtain rfl := width_eq hn
    obtain ⟨i, -, -, rfl⟩ := write_integer_eq_ok.mp h
    exact order.length_write ..
  | bytes size => exact length_write_bytes h
  | bits size => exact length_write_bits h
  | string shape encoding known =>
    obtain ⟨t, e, full, -, -, -, -, rfl⟩ := (write_string_eq_ok (asInt?_declared hn).1).mp h
    exact length_padded (List.length_take_le n full)
  | cstring shape => cases ht

/-- The bytes do not go beyond the slot. -/
theorem length_write {field : Field} (hf : field.BuiltIn) (hn : field.slotSize? = some n)
    (h : field.write n v order = .ok raw) : raw.length ≤ n := by
  cases ht : field.isTerminated with
  | false => exact Nat.le_of_eq (length_write_eq hf hn ht h)
  | true =>
    cases hf with
    | cstring shape =>
      have hroom := TerminatedShape.hasRoom hn
      obtain ⟨t, e, full, -, -, -, -, rfl⟩ := (write_cstring_eq_ok hroom).mp h
      have hr := hroom.room_add_unit_le
      have hl := List.length_take_le (shape.room n) full
      rw [List.length_append, List.length_replicate]
      omega
    | _ => cases ht

/-- With zeros behind them the bytes fill the slot. -/
theorem length_padded_write {field : Field} (hf : field.BuiltIn) (hn : field.slotSize? = some n)
    (h : field.write n v order = .ok raw) : (padded n raw).length = n :=
  length_padded (length_write hf hn h)

end Written

end Field

end ByteLayout
