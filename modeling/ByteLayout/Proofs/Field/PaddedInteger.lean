import ByteLayout.Proofs.Bytes.TwosComplement
import ByteLayout.Proofs.Field.Carries
import ByteLayout.Proofs.Field.Frame

/-! # Integers among pads

A field with a format of one integer, whatever pads the format has around it, takes exactly the
integers that its letter has a place for, and the objects that give one of them for an index. It
writes their bytes in two's complement and reads them back, and without pads there is one integer
for each row of bytes.
-/
namespace ByteLayout.Field

/-- A field that codes the integers of a sign and a width in two's complement, with zeros around
them, and refuses all other values. An object that is asked for an index may fail in its own way. -/
structure CodesInt (field : Field) (lead : Nat) (signed : Bool) (width tail : Nat) : Prop where
  size : field.slotSize? = some (lead + width + tail)
  accepts : ∀ {v : Value} {i : Int}, v.index? = some (.ok i) → HoldsInt signed width i →
    ∀ {buffer : Bytes} {o : Nat} (order : ByteOrder), o + (lead + width + tail) ≤ buffer.length →
      ∃ written, field.encode buffer o v order = .ok written ∧
        ChangedWithin o (lead + width + tail) buffer written ∧
        (written.drop o).take (lead + width + tail) =
          List.replicate lead 0 ++ twosComplement order width i ++ List.replicate tail 0 ∧
        field.decode (.bytes written) o order = pure (.int i)
  refuses : ∀ {v : Value},
    (∀ index, v.index? = some index → ∃ i, index = .ok i ∧ ¬HoldsInt signed width i) →
    ∀ {buffer : Bytes} {o : Nat} (order : ByteOrder), o + (lead + width + tail) ≤ buffer.length →
      field.encode buffer o v order = .error (.layout .pack [] .unworded)
  fails : ∀ {v : Value} {kind : PlainFault}, v.index? = some (.error kind) →
    ∀ {buffer : Bytes} {o : Nat} (order : ByteOrder), o + (lead + width + tail) ≤ buffer.length →
      field.encode buffer o v order = .error (refuseFormat (.bare kind))
  reads : ∀ {buffer : Bytes} {o : Nat} (order : ByteOrder),
    o + (lead + width + tail) ≤ buffer.length →
      ∃ i, HoldsInt signed width i ∧ field.decode (.bytes buffer) o order = pure (.int i) ∧
        twosComplement order width i = (buffer.drop (o + lead)).take width

section Padded
variable {format : Format} {before after : List FormatItem} {signed : Bool} {width : Nat}
  {buffer : Bytes} {o : Nat}

/-- The place of the integer in the slot. -/
theorem take_drop_slot (row : Bytes) (o : Nat) {lead size : Nat} (hs : lead + width ≤ size) :
    (((row.drop o).take size).drop lead).take width = (row.drop (o + lead)).take width := by
  rw [List.drop_take, List.drop_drop, List.take_take, Nat.min_eq_left (by omega)]

theorem decode_padded (h : format.IsPadded before signed width after) (buffer : Bytes) (o : Nat)
    (order : ByteOrder) :
    format.decode order ((buffer.drop o).take format.size) = .ok (.int (heldInt signed width order
      ((buffer.drop (o + Format.extent before)).take width))) := by
  have hs := h.size
  have hslot := take_drop_slot buffer o
    (by omega : Format.extent before + width ≤ format.size)
  rw [h.decode]
  simp only [Code.decode, hslot, heldInt]

theorem decode_number (h : format.IsPadded before signed width after)
    (hb : o + format.size ≤ buffer.length) (name : String) (order : ByteOrder) :
    (number name format none).decode (.bytes buffer) o order =
      pure (.int (heldInt signed width order
        ((buffer.drop (o + Format.extent before)).take width))) := by
  have hd : decodeNumber format buffer o order = .ok (.int (heldInt signed width order
      ((buffer.drop (o + Format.extent before)).take width))) := by
    rw [decodeNumber_eq hb, decode_padded h]
  exact congrArg Logged.ofResult hd

theorem encode_number_of_ok (h : format.IsPadded before signed width after)
    (hb : o + format.size ≤ buffer.length) (name : String) {v : Value} {order : ByteOrder}
    {raw : Bytes} (hc : (Code.integer signed width).encode order 1 v = .ok raw) :
    (number name format none).encode buffer o v order =
      .ok (patch buffer o (List.replicate (Format.extent before) 0 ++ raw ++
        List.replicate (Format.extent after) 0)) := by
  have he := encodeNumber_eq_patch h hb v order
  rw [h.encode, hc] at he
  exact he

theorem encode_number_of_error (h : format.IsPadded before signed width after)
    (hb : o + format.size ≤ buffer.length) (name : String) {v : Value} {order : ByteOrder}
    {fault : Fault} (hc : (Code.integer signed width).encode order 1 v = .error fault) :
    (number name format none).encode buffer o v order = .error (refuseFormat fault) := by
  have he := encodeNumber_eq_patch h hb v order
  rw [h.encode, hc] at he
  exact he

theorem encode_integer_of_holds (hw : 0 < width) {v : Value} {i : Int}
    (hv : v.index? = some (.ok i)) (hi : HoldsInt signed width i) (order : ByteOrder) :
    (Code.integer signed width).encode order 1 v = .ok (twosComplement order width i) := by
  have hr : Code.inRange signed width i = true := (inRange_iff_holdsInt hw).mpr hi
  rw [← write_residue]
  exact Value.withIndex_eq_ok.mpr ⟨i, hv, if_pos hr⟩

theorem encode_integer_of_not_holds (hw : 0 < width) {v : Value}
    (hv : ∀ index, v.index? = some index → ∃ i, index = .ok i ∧ ¬HoldsInt signed width i)
    (order : ByteOrder) :
    (Code.integer signed width).encode order 1 v = .error (.bare .badFormat) := by
  simp only [Code.encode, Value.withIndex]
  cases ha : v.index? with
  | none => rfl
  | some index =>
    obtain ⟨i, rfl, hi⟩ := hv index ha
    have hr : ¬Code.inRange signed width i = true := fun hr =>
      hi ((inRange_iff_holdsInt hw).mp hr)
    exact if_neg hr

theorem encode_integer_of_fault {v : Value} {kind : PlainFault}
    (hv : v.index? = some (.error kind)) (order : ByteOrder) :
    (Code.integer signed width).encode order 1 v = .error (.bare kind) := by
  simp only [Code.encode, Value.withIndex, hv]
  rfl

theorem codesInt_number (h : format.IsPadded before signed width after) (hw : 0 < width)
    (name : String) :
    (number name format none).CodesInt (Format.extent before) signed width
      (Format.extent after) where
  size := by
    rw [← h.size]
    have hpos : (0 : Int) < format.size := by
      have hs := h.size
      omega
    exact if_pos hpos
  accepts {v i} hv hi {buffer o} order hb := by
    have hl : (List.replicate (Format.extent before) 0 ++ twosComplement order width i ++
        List.replicate (Format.extent after) 0).length = format.size := by
      rw [List.length_append, List.length_append, List.length_replicate, List.length_replicate,
        length_twosComplement, h.size]
    have hle : Format.extent before + width ≤ format.size := by
      rw [h.size]
      omega
    rw [← h.size] at hb ⊢
    have hchanged := changedWithin_patch hb (Nat.le_of_eq hl)
    have hslot := slot_patch (Nat.le_of_add_right_le hb) hl
    have hencode := encode_number_of_ok h hb name (encode_integer_of_holds hw hv hi order)
    refine ⟨_, hencode, hchanged, hslot, ?_⟩
    have hr : Code.inRange signed width i = true := (inRange_iff_holdsInt hw).mpr hi
    have hheld : heldInt signed width order (order.write width (residue width i)) = i :=
      heldInt_write hr
    rw [write_residue] at hheld
    -- what is read is the part of the slot that stands behind the pads
    rw [decode_number h (by rwa [hchanged.length_eq]), ← take_drop_slot _ _ hle, hslot,
      List.append_assoc, List.drop_left' List.length_replicate,
      List.take_left' (length_twosComplement order width i), hheld]
  refuses hv _ _ order hb :=
    encode_number_of_error h (h.size ▸ hb) name (encode_integer_of_not_holds hw hv order)
  fails hv _ _ order hb :=
    encode_number_of_error h (h.size ▸ hb) name (encode_integer_of_fault hv order)
  reads {buffer o} order hb := by
    have hl : ((buffer.drop (o + Format.extent before)).take width).length = width :=
      length_take_drop (by omega)
    obtain ⟨hr, hwrite⟩ := write_heldInt signed order hl
    rw [write_residue] at hwrite
    exact ⟨_, (inRange_iff_holdsInt hw).mp hr, decode_number h (h.size ▸ hb) name order, hwrite⟩

end Padded

theorem integerLetters_pos {letter : Char} {signed : Bool} {width : Nat}
    (h : (letter, signed, width) ∈ integerLetters) : 0 < width := by
  have hall : ∀ entry ∈ integerLetters, 0 < entry.2.2 := by decide
  exact hall _ h

end ByteLayout.Field
