import ByteLayout.Proofs.Field.CarriedText
import ByteLayout.Proofs.Field.Slot

/-! # Terminated texts among other bytes

A text with room in its slot is written with a zero unit behind it, over as many bytes as that
takes and no more. It is read back as far as its first zero character: the zero unit is found
where it was put, whatever the slot held before.
-/
namespace ByteLayout.Field
variable {shape : TerminatedShape} {n o : Nat} {t : Text} {raw buffer : Bytes}

theorem encode_cstring (hn : shape.HasRoom n) (ht : shape.encoding.encode? t = some raw)
    (hroom : raw.length ≤ shape.room n) (hb : o + n ≤ buffer.length) (order : ByteOrder) :
    (cstring shape).encode buffer o (.text t) order =
      .ok (patch buffer o (raw ++ List.replicate shape.encoding.unit 0)) := by
  have hcut : raw.take (shape.room n) = raw := List.take_of_length_le hroom
  have hw : (cstring shape).write n (.text t) order =
      .ok (raw ++ List.replicate shape.encoding.unit 0) :=
    (write_cstring_eq_ok hn).mpr
      ⟨t, shape.encoding, raw, rfl, shape.known, ht, fun _ => hroom, by rw [hcut]⟩
  rw [encodeTerminated_eq_patch hn hb, hw]
  rfl

/-- What follows the zero unit in the slot is not looked at. -/
theorem decode_cstring (hn : shape.HasRoom n) (ht : shape.encoding.encode? t = some raw)
    (hroom : raw.length ≤ shape.room n) (hb : o + n ≤ buffer.length) {rest : Bytes}
    (hslot : (buffer.drop o).take n = raw ++ (List.replicate shape.encoding.unit 0 ++ rest))
    (order : ByteOrder) :
    (cstring shape).decode (.bytes buffer) o order = pure (.text t.beforeZero) := by
  have hl : ((buffer.drop o).take n).length = n := length_take_drop hb
  obtain ⟨hcov, rfl⟩ := Encoding.encode?_eq_some.mp ht
  have hbefore := beforeZeroUnit_slot hn hcov rest
  rw [List.take_of_length_le hroom, ← hslot] at hbefore
  have hfits : (shape.encoding.mark ++ shape.encoding.body t.beforeZero).length ≤ shape.room n := by
    have hbody := length_body_beforeZero_le shape.encoding t
    rw [List.length_append] at hroom ⊢
    omega
  rw [List.take_of_length_le hfits] at hbefore
  have hcov' : shape.encoding.Covers t.beforeZero := hcov.sublist (List.takeWhile_sublist _)
  have hback := Encoding.decode_encode? (Encoding.encode?_of_covers hcov')
  have hlength : (cstring shape).length = .ok (n : Int) := length_of_asInt? hn.size
  have hrow : (cstring shape).slot (.bytes buffer) o = .ok (.bytes ((buffer.drop o).take n)) := by
    simp only [slot, hlength, bind, Except.bind, Row.cut_bytes, slice_eq_take_drop]
  simp only [decode, hrow, bind, Except.bind, Row.content_bytes, hl, hbefore, hback]
  rfl

/-- A text for which a slot has room is written, with a zero unit behind it, into the slot as it
is, and read back from there up to its first zero character. -/
theorem decode_encode_cstring (hs : shape.size.asInt? = some (n : Int))
    (hu : shape.encoding.unit ≤ n) (ht : shape.encoding.encode? t = some raw)
    (hroom : raw.length ≤ shape.room n) (hb : o + n ≤ buffer.length) (order : ByteOrder) :
    ∃ written, (cstring shape).encode buffer o (.text t) order = .ok written ∧
      written.length = buffer.length ∧ raw.length + shape.encoding.unit ≤ n ∧
      slice written o (o + (raw.length + shape.encoding.unit : Nat)) =
        raw ++ List.replicate shape.encoding.unit 0 ∧
      (∀ i, i < o ∨ o + (raw.length + shape.encoding.unit) ≤ i → written[i]? = buffer[i]?) ∧
      ∀ order', (cstring shape).decode (.bytes written) o order' = pure (.text t.beforeZero) := by
  have hn : shape.HasRoom n := ⟨hs, hu⟩
  have hended : raw.length + shape.encoding.unit ≤ n :=
    (Nat.add_le_add_right hroom _).trans hn.room_add_unit_le
  have hl : (raw ++ List.replicate shape.encoding.unit (0 : UInt8)).length =
      raw.length + shape.encoding.unit := by
    rw [List.length_append, List.length_replicate]
  have hle : o + (raw ++ List.replicate shape.encoding.unit (0 : UInt8)).length ≤
      buffer.length := by omega
  have hlen := length_patch hle
  have hdrop := drop_patch (Nat.le_of_add_right_le hb)
    (raw ++ List.replicate shape.encoding.unit (0 : UInt8))
  refine ⟨_, encode_cstring hn ht hroom hb order, hlen, hended, ?_, ?_, fun order' => ?_⟩
  · have hslice := slice_eq_take_drop
      (patch buffer o (raw ++ List.replicate shape.encoding.unit 0)) o
      (raw.length + shape.encoding.unit)
    rw [hslice, hdrop, List.take_left' hl]
  · intro i hi
    rw [← hl] at hi
    exact getElem?_patch hle hi
  · have hslot := congrArg (List.take n) hdrop
    have hwhole := List.take_of_length_le (hl.trans_le hended)
    rw [List.take_append, hwhole, List.append_assoc] at hslot
    exact decode_cstring hn ht hroom (by rwa [hlen]) hslot order'

def banner : TerminatedShape where
  size := .int 11
  encodingName := .ofString "utf-16"
  strict := true
  encoding := .utf16 none
  known := rfl
  roomy n h _ := by
    obtain rfl := Option.some.inj h
    decide

theorem decode_encode_banner :
    ∃ written, (cstring banner).encode [1, 2, 3, 4, 5, 6, 7, 8, 9, 10, 11, 12, 13, 14, 15] 2
        (.text [0x61, 0, 0x62]) .big = .ok written ∧
      written = [1, 2, 0xFF, 0xFE, 0x61, 0, 0, 0, 0x62, 0, 0, 0, 13, 14, 15] ∧
      (cstring banner).decode (.bytes written) 2 .little = pure (.text [0x61]) := by
  have ht : banner.encoding.encode? [0x61, 0, 0x62] =
      some [0xFF, 0xFE, 0x61, 0, 0, 0, 0x62, 0] := rfl
  have hs : banner.size.asInt? = some ((11 : Nat) : Int) := rfl
  have hb : 2 + 11 ≤ ([1, 2, 3, 4, 5, 6, 7, 8, 9, 10, 11, 12, 13, 14, 15] : Bytes).length := by
    decide
  obtain ⟨written, hw, -, -, -, -, hback⟩ :=
    decode_encode_cstring hs (by decide) ht (by decide) hb .big
  refine ⟨written, hw, ?_, hback .little⟩
  obtain rfl := Except.ok.inj hw
  rfl

end ByteLayout.Field
