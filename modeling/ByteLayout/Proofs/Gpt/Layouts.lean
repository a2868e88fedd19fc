import ByteLayout.Gpt.Table
import ByteLayout.Proofs.Field.CutText
import ByteLayout.Proofs.Layout.Window

/-! # What the layouts of a partition table read

The fields of the header and of an entry read nothing but their slots and make something of
whatever is there, the name of an entry too, whose codec is one of its own. The numbers of a table
are those that its bytes make.
-/
namespace ByteLayout.Gpt

theorem decodeName_bytes (buffer : Bytes) (o : Nat) (order : ByteOrder) :
    decodeName (.bytes buffer) o order =
      .ok (.text (Utf16.decode .little ((buffer.drop o).take nameSize)).beforeZero) := by
  rw [decodeName, Row.cut_bytes, slice_eq_take_drop]
  rfl

/-- A terminated text is what a text of the same slot is before its first zero character, though
one is cut before it is read and the other after. The name of an entry is such a text. -/
theorem decode_cstring_eq_cut {text : TextShape} {shape : TerminatedShape} {n : Nat}
    (hs : text.size.asInt? = some (n : Int)) (hk : text.findEncoding = .ok shape.encoding)
    (hn : shape.HasRoom n) (buffer : Bytes) (o : Nat) (order : ByteOrder) :
    ∃ whole cut, (Field.string text).decode (.bytes buffer) o order = pure (.text whole) ∧
      (Field.cstring shape).decode (.bytes buffer) o order = pure (.text cut) ∧
      0 ∉ cut ∧ (whole = cut ∨ ∃ rest, whole = cut ++ 0 :: rest) ∧
      (n = nameSize → shape.encoding = .utf16 (some .little) →
        decodeName (.bytes buffer) o order = .ok (.text cut)) := by
  refine ⟨_, _, Field.decode_string hs hk buffer o order,
    Field.decode_cstring_eq_beforeZero hn.size buffer o order,
    Field.zero_notMem_beforeZero _, Text.eq_beforeZero_or _, ?_⟩
  rintro rfl he
  rw [decodeName_bytes, he]
  rfl

def namesake : TerminatedShape where
  size := .int nameSize
  encodingName := .ofString "utf-16-le"
  strict := false
  encoding := .utf16 (some .little)
  known := rfl
  roomy n h _ := by
    obtain rfl := Option.some.inj h
    decide

/-- An open pair before the zero unit. -/
theorem decode_namesake :
    ∃ whole cut, (Field.string namesake.toTextShape).decode
        (.bytes ([0x61, 0, 0x3D, 0xD8, 0, 0] ++ List.replicate 66 0x62)) 0 .big =
        pure (.text whole) ∧
      (Field.cstring namesake).decode
        (.bytes ([0x61, 0, 0x3D, 0xD8, 0, 0] ++ List.replicate 66 0x62)) 0 .big =
        pure (.text cut) ∧
      cut = [0x61, Text.replacement] ∧
      decodeName (.bytes ([0x61, 0, 0x3D, 0xD8, 0, 0] ++ List.replicate 66 0x62)) 0 .big =
        .ok (.text cut) := by
  have hn : namesake.HasRoom nameSize := ⟨rfl, by decide⟩
  obtain ⟨whole, cut, hwhole, hcut, -, -, hname⟩ := decode_cstring_eq_cut hn.size namesake.known hn
    ([0x61, 0, 0x3D, 0xD8, 0, 0] ++ List.replicate 66 0x62) 0 .big
  refine ⟨whole, cut, hwhole, hcut, ?_, hname rfl rfl⟩
  have hsame := hname rfl rfl
  rw [decodeName_bytes] at hsame
  injection hsame with hsame
  injection hsame with hsame
  rw [← hsame]
  rfl

theorem readsSlot_name : (Field.custom (.int nameSize) nameCodec).ReadsSlot nameSize := by
  intro buffer o order hb
  have h0 := decodeName_bytes ((buffer.drop o).take nameSize) 0 order
  rw [List.drop_zero, List.take_take, Nat.min_self, ← decodeName_bytes buffer o order] at h0
  exact congrArg Logged.ofResult h0.symm

theorem readsAny_name : (Field.custom (.int nameSize) nameCodec).ReadsAny nameSize := by
  intro buffer o order hb
  exact ⟨_, decodeName_bytes buffer o order⟩

theorem reads_of_builtIn {field : Field} {n : Nat} (hf : field.BuiltIn)
    (hn : field.slotSize? = some n) (hk : ∀ order raw, field.Knows order raw) :
    field.ReadsSlot n ∧ field.ReadsAny n :=
  ⟨Field.readsSlot_of_builtIn hf hn, Field.readsAny_of_builtIn hf hn hk⟩

theorem reads_headerLayout : ∀ slot ∈ headerLayout.slots,
    slot.field.ReadsSlot slot.size ∧ slot.field.ReadsAny slot.size := by
  intro slot hs
  simp only [headerLayout, List.mem_cons, List.not_mem_nil, or_false] at hs
  rcases hs with rfl | rfl | rfl | rfl | rfl | rfl | rfl | rfl | rfl | rfl | rfl | rfl | rfl | rfl
  all_goals first
    | exact reads_of_builtIn (.bytes _) rfl fun _ _ => trivial
    | exact reads_of_builtIn (.integer ..) rfl fun _ _ => trivial

theorem reads_entryLayout : ∀ slot ∈ entryLayout.slots,
    slot.field.ReadsSlot slot.size ∧ slot.field.ReadsAny slot.size := by
  intro slot hs
  simp only [entryLayout, List.mem_cons, List.not_mem_nil, or_false] at hs
  rcases hs with rfl | rfl | rfl | rfl | rfl | rfl
  · exact reads_of_builtIn (.bytes _) rfl fun _ _ => trivial
  · exact reads_of_builtIn (.bytes _) rfl fun _ _ => trivial
  · exact reads_of_builtIn (.integer ..) rfl fun _ _ => trivial
  · exact reads_of_builtIn (.integer ..) rfl fun _ _ => trivial
  · exact reads_of_builtIn (.bits _) rfl fun _ _ => trivial
  · exact ⟨readsSlot_name, readsAny_name⟩

/-- The little endian number of so many bytes of the image from a position on. -/
def numberAt (image : Bytes) (o width : Nat) : Nat :=
  ByteOrder.little.read ((image.drop o).take width)

section
variable {layout : Layout} {image : Bytes} {items : Items Value} {o k : Nat} {slot : Slot}
  (hb : o + layout.size ≤ image.length) (hu : (layout.unpack image o).result = .ok items)
  (hm : (k, slot) ∈ layout.placed)
include hb hu hm

theorem exists_read_of_unpack (hf : slot.field.BuiltIn) :
    ∃ v, items.get? slot.name = some v ∧ ((image.drop (o + k)).take slot.size).length = slot.size ∧
      (slot.field.read layout.order ((image.drop (o + k)).take slot.size)).result = .ok v := by
  obtain ⟨v, hv, hd⟩ := Layout.get?_of_unpack hb hu hm
  have hle : k + slot.size ≤ layout.size := (Layout.le_of_mem_placed hm).2
  have hslot : o + k + slot.size ≤ image.length := by omega
  rw [Field.decode_eq_read hf slot.sized hslot] at hd
  exact ⟨v, hv, length_take_drop hslot, hd⟩

theorem intOf_unpack (hl : layout.order = .little) {name letter : String} {width : Nat}
    (hf : slot.field = .integer name false width letter none) :
    intOf items slot.name = numberAt image (o + k) width := by
  obtain ⟨v, hv, hlen, hr⟩ := exists_read_of_unpack hb hu hm (hf ▸ .integer ..)
  obtain rfl : width = slot.size := Field.width_eq (hf ▸ slot.sized)
  rw [hf, hl, Field.read_integer hlen] at hr
  obtain rfl := Except.ok.inj hr
  rw [intOf, hv]
  rfl

theorem get?_unpack_bytes {declared : Value} (hf : slot.field = .bytes declared) :
    items.get? slot.name = some (.buffer ((image.drop (o + k)).take slot.size)) := by
  obtain ⟨v, hv, -, hr⟩ := exists_read_of_unpack hb hu hm (hf ▸ .bytes _)
  rw [hf] at hr
  obtain rfl := Except.ok.inj hr
  exact hv

theorem bytesOf_unpack {declared : Value} (hf : slot.field = .bytes declared) :
    bytesOf items slot.name = (image.drop (o + k)).take slot.size := by
  rw [bytesOf, get?_unpack_bytes hb hu hm hf]
  rfl

end

end ByteLayout.Gpt
