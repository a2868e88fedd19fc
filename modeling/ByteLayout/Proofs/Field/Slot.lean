import ByteLayout.Proofs.Field.Written
import ByteLayout.Proofs.Text.ZeroUnit

/-! # Fields in their slots

In a buffer a built-in field reads nothing but its slot, and writes nothing but some bytes from
the start of its slot on, wherever the slot is and whatever it holds.
-/
namespace ByteLayout.Field

theorem mapError_ok {α : Type} (f : Fault → Fault) (a : α) :
    (Except.ok a : Except Fault α).mapError f = .ok a := rfl

theorem size_of_asInt? {field : Field} {i : Int} (hd : field.declared.asInt? = some i) :
    field.size = .ok field.declared := by
  unfold size
  split
  · next hn =>
    rw [hn] at hd
    cases hd
  · rfl

theorem length_of_asInt? {field : Field} {i : Int} (hd : field.declared.asInt? = some i) :
    field.length = .ok i := by
  unfold length
  rw [size_of_asInt? hd]
  simp only [bind, Except.bind, hd]
  rfl

theorem size_eq {field : Field} {n : Nat} (h : field.slotSize? = some n) :
    field.size = .ok field.declared := size_of_asInt? (asInt?_declared h).1

theorem length_eq {field : Field} {n : Nat} (h : field.slotSize? = some n) :
    field.length = .ok (n : Int) := length_of_asInt? (asInt?_declared h).1

theorem window?_of_le {length size o : Nat} (h : o + size ≤ length) :
    window? length size (o : Int) = some o := by
  rw [window?, if_neg (by omega), if_pos (by omega), Int.toNat_natCast]

theorem fill_of_le {n : Nat} {buffer : Bytes} (h : n ≤ buffer.length) (raw : Bytes) :
    fill n raw buffer = .ok (padded n raw) := if_pos (by simpa using h)

theorem bitsFor_of_le {field : Field} {n room : Nat} (hn : field.slotSize? = some n)
    (h : n ≤ room) (v : Value) : field.bitsFor room v = field.bitsFor n v := by
  have hr : ¬((room : Int) < n ∧ Value.fixedLimit ≤ (n : Int)) := by omega
  have hs : ¬((n : Int) < n ∧ Value.fixedLimit ≤ (n : Int)) := by omega
  unfold bitsFor
  simp only [length_eq hn, bind, Except.bind, bitsOfInt, if_neg hr, if_neg hs]

section Local
variable {n o : Nat} {buffer : Bytes}

theorem encodeBytes_eq_patch {declared : Value} (hn : (bytes declared).slotSize? = some n)
    (hb : o + n ≤ buffer.length) (v : Value) (order : ByteOrder) :
    (bytes declared).encode buffer o v order =
      ((bytes declared).write n v order).map (patch buffer o) := by
  have hl := length_eq hn
  simp only [encode, encodeBytes, write]
  split
  · rfl
  · cases v.content.mapError refuse with
    | error fault => rfl
    | ok raw =>
      have hp : (padded n (raw.take n)).length = n := length_padded (List.length_take_le n raw)
      simp only [hl, mapError_ok, bind, Except.bind, slice_zero,
        fill_of_le (by omega : n ≤ buffer.length), pure, Except.pure, Except.map,
        splice_eq_patch hb hp]

theorem encodeNumber_eq_patch {format : Format} {before after : List FormatItem} {signed : Bool}
    {width : Nat} (h : format.IsPadded before signed width after)
    (hb : o + format.size ≤ buffer.length) (v : Value) (order : ByteOrder) :
    encodeNumber format buffer o v order =
      ((format.encode order v).mapError refuseFormat).map (patch buffer o) := by
  simp only [encodeNumber, putNumber, h.values, window?_of_le hb, h.overrun?, ne_eq,
    not_true_eq_false, if_false]
  cases he : format.encode order v with
  | error fault => rfl
  | ok raw =>
    have hl : raw.length = format.size := h.length_of_encode he
    simp only [bind, Except.bind, pure, Except.pure, mapError_ok, Except.map,
      splice_eq_patch hb hl]

theorem decodeNumber_eq {format : Format} (hb : o + format.size ≤ buffer.length)
    (order : ByteOrder) :
    decodeNumber format buffer o order =
      format.decode order ((buffer.drop o).take format.size) := by
  simp only [decodeNumber, window?_of_le hb]

theorem encodeString_eq_patch {shape : TextShape} (hn : (string shape).slotSize? = some n)
    (hb : o + n ≤ buffer.length) (v : Value) (order : ByteOrder) :
    (string shape).encode buffer o v order =
      ((string shape).write n v order).map (patch buffer o) := by
  have hd : shape.size.asInt? = some (n : Int) := (asInt?_declared hn).1
  simp only [encode, write, size_eq hn, length_eq hn, declared, name, bind, Except.bind]
  cases he : shape.encode "String" v shape.size with
  | error fault => rfl
  | ok raw =>
    have hp := length_padded (TextShape.length_le_of_encode hd he)
    simp only [fill_of_le (by omega : n ≤ buffer.length), pure, Except.pure, Except.map,
      splice_eq_patch hb hp]

theorem encodeTerminated_eq_patch {shape : TerminatedShape} (hn : shape.HasRoom n)
    (hb : o + n ≤ buffer.length) (v : Value) (order : ByteOrder) :
    (cstring shape).encode buffer o v order =
      ((cstring shape).write n v order).map (patch buffer o) := by
  have hr := hn.room_add_unit_le
  have hsize : (cstring shape).size = .ok shape.size := size_of_asInt? hn.size
  simp only [encode, write, hsize, hn.budget_eq, name, bind, Except.bind]
  cases he : shape.toTextShape.encode "CString" v (.int (shape.room n : Nat)) with
  | error fault => rfl
  | ok raw =>
    have hl := TextShape.length_le_of_encode rfl he
    have hle : o + (raw ++ List.replicate shape.encoding.unit 0).length ≤ buffer.length := by
      rw [List.length_append, List.length_replicate]
      omega
    simp only [pure, Except.pure, Except.map, splice_eq_patch hle rfl]

theorem encodeBits_eq_patch {declared : Value} (hn : (bits declared).slotSize? = some n)
    (hb : o + n ≤ buffer.length) (v : Value) (order : ByteOrder) :
    (bits declared).encode buffer o v order =
      ((bits declared).write n v order).map (patch buffer o) := by
  have hd : declared.asInt? = some (n : Int) := (asInt?_declared hn).1
  simp only [encode, encodeBits, write, size_eq hn, bitsFor_of_le hn (Nat.le_of_add_left_le hb),
    Field.declared, bind, Except.bind]
  cases eightfold declared with
  | error fault => rfl
  | ok length? =>
    cases hr : (bits declared).bitsFor n v with
    | error fault => rfl
    | ok row? =>
      cases row? with
      | none => rfl
      | some row =>
        by_cases h8 : (row.length : Int) = 8 * n
        · have hl : (order.arrangeBig (Bits.toBytes row)).length = n := by
            rw [order.length_arrangeBig, Bits.length_toBytes (by omega : row.length = 8 * n)]
          cases declared with
          | float pattern => cases hd
          | _ => simp only [hd, if_pos h8, pure, Except.pure, Except.map, splice_eq_patch hb hl]
        · cases declared with
          | float pattern => cases hd
          | _ =>
            simp only [hd, if_neg h8]
            rfl

end Local

/-- A built-in field writes some bytes into its slot, which depend on nothing but the value. -/
theorem encode_eq_patch {field : Field} (hf : field.BuiltIn) {n : Nat}
    (hn : field.slotSize? = some n) {buffer : Bytes} {o : Nat} (hb : o + n ≤ buffer.length)
    (v : Value) (order : ByteOrder) :
    field.encode buffer o v order = (field.write n v order).map (patch buffer o) := by
  cases hf with
  | integer name signed width letter members =>
    obtain rfl := width_eq hn
    exact encodeNumber_eq_patch (isPadded_integer signed width letter) (by rwa [size_integer])
      (unwrapped members v) order
  | bytes size => exact encodeBytes_eq_patch hn hb v order
  | bits size => exact encodeBits_eq_patch hn hb v order
  | string shape encoding known => exact encodeString_eq_patch hn hb v order
  | cstring shape => exact encodeTerminated_eq_patch (TerminatedShape.hasRoom hn) hb v order

/-- A built-in field reads its slot and nothing else of the buffer. -/
theorem decode_eq_read {field : Field} (hf : field.BuiltIn) {n : Nat}
    (hn : field.slotSize? = some n) {buffer : Bytes} {o : Nat} (hb : o + n ≤ buffer.length)
    (order : ByteOrder) :
    field.decode (.bytes buffer) o order = field.read order ((buffer.drop o).take n) := by
  have hs : field.slot (.bytes buffer) o = .ok (.bytes ((buffer.drop o).take n)) := by
    simp only [slot, length_eq hn, bind, Except.bind, Row.cut_bytes, slice_eq_take_drop]
  cases hf with
  | integer name signed width letter members =>
    obtain rfl := width_eq hn
    have hd : decodeNumber ⟨letter, [⟨.integer signed width, 1⟩]⟩ buffer o order =
        (⟨letter, [⟨.integer signed width, 1⟩]⟩ : Format).decode order
          ((buffer.drop o).take width) := by
      rw [decodeNumber_eq (by rwa [size_integer]), size_integer]
    cases members with
    | none => exact congrArg Logged.ofResult hd
    | some e =>
      simp only [integer, decode, read, Row.stored_bytes]
      rw [← hd]
      rfl
  | bytes size =>
    simp only [decode, hs]
    rfl
  | bits size =>
    simp only [decode, hs]
    rfl
  | string shape encoding known =>
    simp only [decode, hs]
    rfl
  | cstring shape =>
    simp only [decode, hs]
    rfl

section Texts
variable {n : Nat}

/-- A text is read of all bytes of its slot. -/
theorem decode_string {shape : TextShape} {e : Encoding} (hs : shape.size.asInt? = some (n : Int))
    (hk : shape.findEncoding = .ok e) (buffer : Bytes) (o : Nat) (order : ByteOrder) :
    (string shape).decode (.bytes buffer) o order =
      pure (.text (e.decode ((buffer.drop o).take n))) := by
  have hl : (string shape).length = .ok (n : Int) := length_of_asInt? hs
  have hd : shape.decode ((buffer.drop o).take n) = .ok (e.decode ((buffer.drop o).take n)) := by
    unfold TextShape.decode
    rw [hk]
    rfl
  simp only [decode, slot, hl, bind, Except.bind, Row.cut_bytes, slice_eq_take_drop,
    Row.content_bytes, hd]
  rfl

/-- A terminated text is what a text of the same slot is before its first zero character. -/
theorem decode_cstring_eq_beforeZero {shape : TerminatedShape}
    (hs : shape.size.asInt? = some (n : Int)) (buffer : Bytes) (o : Nat) (order : ByteOrder) :
    (cstring shape).decode (.bytes buffer) o order =
      pure (.text (shape.encoding.decode ((buffer.drop o).take n)).beforeZero) := by
  have hl : (cstring shape).length = .ok (n : Int) := length_of_asInt? hs
  have hd := shape.encoding.decode_cutUnits ((buffer.drop o).take n)
  rw [cutUnits] at hd
  simp only [decode, slot, hl, bind, Except.bind, Row.cut_bytes, slice_eq_take_drop,
    Row.content_bytes, hd]
  rfl

end Texts

end ByteLayout.Field
