import ByteLayout.Proofs.Field.Slot

/-! # What a field leaves alone

A built-in field changes its slot and nothing else of the buffer, and all but a terminated text
leave nothing of what the slot held. A terminated text keeps to its slot because its constructor
refuses a size that has no room for the zero unit.
-/
namespace ByteLayout

structure ChangedWithin (o n : Nat) (buffer written : Bytes) : Prop where
  length_eq : written.length = buffer.length
  outside : ∀ i, i < o ∨ o + n ≤ i → written[i]? = buffer[i]?

theorem changedWithin_patch {buffer raw : Bytes} {o n : Nat} (hb : o + n ≤ buffer.length)
    (hr : raw.length ≤ n) : ChangedWithin o n buffer (patch buffer o raw) where
  length_eq := length_patch (by omega)
  outside i hi := getElem?_patch (by omega) (by omega)

def TextShape.encodeEnded (shape : TextShape) (encoding : Encoding) (n : Int) (buffer : Bytes)
    (offset : Int) (v : Value) : Except Fault Bytes := do
  let rest := n - encoding.unit
  let raw ← shape.encode "CString" v (.int (rest - rest % encoding.unit))
  let ended := raw ++ List.replicate encoding.unit 0
  return splice buffer offset (offset + ended.length) ended

namespace Field

section Frame
variable {field : Field} {n o : Nat} {buffer written : Bytes} {v : Value} {order : ByteOrder}

theorem exists_write_of_encode (hf : field.BuiltIn) (hn : field.slotSize? = some n)
    (hb : o + n ≤ buffer.length) (h : field.encode buffer o v order = .ok written) :
    ∃ raw, field.write n v order = .ok raw ∧ written = patch buffer o raw := by
  rw [encode_eq_patch hf hn hb] at h
  cases hw : field.write n v order with
  | error fault =>
    rw [hw] at h
    cases h
  | ok raw =>
    rw [hw] at h
    exact ⟨raw, rfl, (Except.ok.inj h).symm⟩

theorem changedWithin_of_encode (hf : field.BuiltIn) (hn : field.slotSize? = some n)
    (hb : o + n ≤ buffer.length) (h : field.encode buffer o v order = .ok written) :
    ChangedWithin o n buffer written := by
  obtain ⟨raw, hw, rfl⟩ := exists_write_of_encode hf hn hb h
  exact changedWithin_patch hb (length_write hf hn hw)

/-- A slot that is filled holds nothing but what is written for the value. -/
theorem slot_of_encode (hf : field.BuiltIn) (hn : field.slotSize? = some n)
    (ht : field.isTerminated = false) (hb : o + n ≤ buffer.length)
    (h : field.encode buffer o v order = .ok written) {buffer' : Bytes} {o' : Nat}
    (hb' : o' + n ≤ buffer'.length) :
    ∃ written', field.encode buffer' o' v order = .ok written' ∧
      (written'.drop o').take n = (written.drop o).take n := by
  obtain ⟨raw, hw, rfl⟩ := exists_write_of_encode hf hn hb h
  have hl := length_write_eq hf hn ht hw
  refine ⟨patch buffer' o' raw, ?_, ?_⟩
  · rw [encode_eq_patch hf hn hb', hw]
    rfl
  · rw [slot_patch (Nat.le_of_add_right_le hb') hl, slot_patch (Nat.le_of_add_right_le hb) hl]

end Frame

/-! ## Terminated texts without room -/

theorem encode_cstring_eq_ended {shape : TerminatedShape} {n : Int}
    (hs : shape.size.asInt? = some n) (buffer : Bytes) (o : Int) (v : Value) (order : ByteOrder) :
    (cstring shape).encode buffer o v order =
      shape.toTextShape.encodeEnded shape.encoding n buffer o v := by
  have hsize : (cstring shape).size = .ok shape.size := size_of_asInt? hs
  have hb : shape.budget =
      .ok (.int (n - shape.encoding.unit - (n - shape.encoding.unit) % shape.encoding.unit)) := by
    unfold TerminatedShape.budget
    split
    · next hf =>
      rw [hf] at hs
      cases hs
    · simp only [hs]
      rfl
  simp only [encode, hsize, hb, bind, Except.bind]
  rfl

section NoRoom
variable {shape : TextShape} {encoding : Encoding} {n : Nat}

theorem terminated_of_lt_unit (hs : shape.size.asInt? = some (n : Int))
    (hk : shape.findEncoding = .ok encoding) (hn : 0 < n) (hu : n < encoding.unit) :
    terminated shape = .error (.plain .badValue (.noRoom shape.size shape.encodingName)) := by
  unfold terminated
  split
  · next fault hf =>
    rw [hk] at hf
    cases hf
  · next e he =>
    obtain rfl : encoding = e := Except.ok.inj (hk.symm.trans he)
    split
    · next hz =>
      rw [hs] at hz
      cases hz
    · next m hm =>
      obtain rfl : (n : Int) = m := Option.some.inj (hs.symm.trans hm)
      rw [dif_neg (by omega)]
      rfl

/-- A mark of a wide encoding is a unit. -/
theorem slice_mark {e : Encoding} (hu : 1 < e.unit) : slice e.mark 0 (-(e.unit : Int)) = [] := by
  rcases e with _ | _ | _ | (_ | order) | (_ | order)
  · exact absurd hu (Nat.lt_irrefl 1)
  · exact absurd hu (Nat.lt_irrefl 1)
  · exact absurd hu (Nat.lt_irrefl 1)
  all_goals rfl

/-- Without the refusal the zero unit would go beyond the slot. -/
theorem not_changedWithin_encodeEnded (hk : shape.findEncoding = .ok encoding)
    (hloose : shape.strict = false) (hn : 0 < n) (hu : n < encoding.unit) :
    ∃ buffer written, n ≤ buffer.length ∧
      shape.encodeEnded encoding n buffer 0 (.text []) = .ok written ∧
      ¬ChangedWithin 0 n buffer written := by
  have hbudget : (n : Int) - encoding.unit - ((n : Int) - encoding.unit) % encoding.unit =
      -(encoding.unit : Int) := by
    have hm : ((n : Int) - encoding.unit) % encoding.unit = n := by
      rw [Int.sub_emod_right, Int.emod_eq_of_lt (by omega) (by omega)]
    omega
  have hempty : encoding.encode? [] = some encoding.mark := by
    rw [Encoding.encode?_of_covers (Encoding.Covers.nil encoding), Encoding.body_nil,
      List.append_nil]
  have hraw : shape.encode "CString" (.text []) (.int (-(encoding.unit : Int))) = .ok [] := by
    unfold TextShape.encode
    simp only [hk, hempty, hloose, bind, Except.bind, pure, Except.pure, Bool.false_and,
      Bool.false_eq_true, if_false, Value.asInt?_int, slice_mark (by omega : 1 < encoding.unit)]
  have hl : (List.replicate encoding.unit (0 : UInt8)).length = encoding.unit :=
    List.length_replicate
  have hones : 0 + encoding.unit ≤ (List.replicate encoding.unit (1 : UInt8)).length := by
    rw [List.length_replicate]
    omega
  refine ⟨List.replicate encoding.unit 1, patch (List.replicate encoding.unit 1) 0
    (List.replicate encoding.unit 0), by rw [List.length_replicate]; omega, ?_, fun h => ?_⟩
  · simp only [TextShape.encodeEnded, hbudget, hraw, bind, Except.bind, List.nil_append, hl]
    exact congrArg Except.ok (splice_eq_patch hones hl)
  · -- the byte behind the slot is overwritten by the zero unit
    have hout := h.outside n (.inr (by omega))
    simp [patch, hu] at hout

end NoRoom

/-- A built-in field that writes a value changes nothing outside its slot, and all but a terminated
text write into every slot what they write into one. A terminated text needs a size with room for
its zero unit: any other is refused, and would be written beyond its slot. -/
theorem encode_frame :
    (∀ {field : Field} {n : Nat}, field.BuiltIn → field.slotSize? = some n →
      ∀ {buffer written : Bytes} {o : Nat} {v : Value} {order : ByteOrder},
        o + n ≤ buffer.length → field.encode buffer o v order = .ok written →
        ChangedWithin o n buffer written ∧
        (field.isTerminated = false → ∀ (buffer' : Bytes) (o' : Nat), o' + n ≤ buffer'.length →
          ∃ written', field.encode buffer' o' v order = .ok written' ∧
            (written'.drop o').take n = (written.drop o).take n)) ∧
    (∀ {shape : TextShape} {encoding : Encoding} {n : Nat}, shape.size.asInt? = some (n : Int) →
      shape.findEncoding = .ok encoding → 0 < n → n < encoding.unit →
        terminated shape = .error (.plain .badValue (.noRoom shape.size shape.encodingName)) ∧
        (shape.strict = false → ∃ buffer written, n ≤ buffer.length ∧
          shape.encodeEnded encoding n buffer 0 (.text []) = .ok written ∧
          ¬ChangedWithin 0 n buffer written)) ∧
    ∀ {shape : TerminatedShape} {n : Int}, shape.size.asInt? = some n →
      ∀ (buffer : Bytes) (o : Int) (v : Value) (order : ByteOrder),
        (cstring shape).encode buffer o v order =
          shape.toTextShape.encodeEnded shape.encoding n buffer o v := by
  refine ⟨fun hf hn _ _ _ _ _ hb h => ⟨changedWithin_of_encode hf hn hb h, fun ht _ _ hb' => ?_⟩,
    fun hs hk hn hu => ⟨terminated_of_lt_unit hs hk hn hu, fun hloose => ?_⟩,
    fun hs => encode_cstring_eq_ended hs⟩
  · exact slot_of_encode hf hn ht hb h hb'
  · exact not_changedWithin_encodeEnded hk hloose hn hu

def stub : TextShape where
  size := .int 3
  encodingName := .ofString "utf-32"
  strict := false

theorem encode_frame_bits :
    (∃ written, (bits (.int 2)).encode [1, 2, 3, 4] 1 (.int 0xABC) .little = .ok written ∧
      written = [1, 0xBC, 0x0A, 4] ∧ ChangedWithin 1 2 [1, 2, 3, 4] written ∧
      ∃ written', (bits (.int 2)).encode [9, 9, 9] 0 (.int 0xABC) .little = .ok written' ∧
        (written'.drop 0).take 2 = (written.drop 1).take 2) ∧
    terminated stub = .error (.plain .badValue (.noRoom stub.size stub.encodingName)) ∧
    ∃ buffer written, 3 ≤ buffer.length ∧
      stub.encodeEnded (.utf32 none) (3 : Nat) buffer 0 (.text []) = .ok written ∧
      ¬ChangedWithin 0 3 buffer written := by
  obtain ⟨hframe, hstub, -⟩ := encode_frame
  obtain ⟨hw, hsame⟩ := hframe (n := 2) (o := 1) (.bits (.int 2)) rfl
    (by decide : 1 + 2 ≤ ([1, 2, 3, 4] : Bytes).length)
    (rfl : (bits (.int 2)).encode [1, 2, 3, 4] 1 (.int 0xABC) .little = .ok [1, 0xBC, 0x0A, 4])
  have hs : stub.size.asInt? = some ((3 : Nat) : Int) := rfl
  have hk : stub.findEncoding = .ok (.utf32 none) := rfl
  obtain ⟨hno, hbeyond⟩ := hstub hs hk (by decide) (by decide)
  exact ⟨⟨_, rfl, rfl, hw, hsame rfl [9, 9, 9] 0 (by decide)⟩, hno, hbeyond rfl⟩

end Field

end ByteLayout
