import ByteLayout.Proofs.Bits.Numbers
import ByteLayout.Proofs.Field.PaddedInteger

/-! # Rows of bits as numbers

A field of bits reads the number that its bytes hold, spelled bit by bit, and takes a number or a
row of its length. What it writes is what an unsigned integer of the same size writes.
-/
namespace ByteLayout

def Value.StandsFor (v : Value) (n m : Nat) : Prop :=
  (v.asInt? = some (m : Int) ∧ m < 2 ^ (8 * n)) ∨
    ∃ row, v.asBits? = some row ∧ row.length = 8 * n ∧ row.Spells m

namespace Field

structure CodesBits (field : Field) (n : Nat) : Prop where
  reads : ∀ {buffer : Bytes} {o : Nat} (order : ByteOrder), o + n ≤ buffer.length →
    ∃ row, field.decode (.bytes buffer) o order = pure (.bitBuffer row) ∧ row.length = 8 * n ∧
      row.Spells (order.read ((buffer.drop o).take n)) ∧
      ∀ {buffer' : Bytes} {o' : Nat}, o' + n ≤ buffer'.length →
        ∃ written, field.encode buffer' o' (.bitBuffer row) order = .ok written ∧
          (written.drop o').take n = (buffer.drop o).take n
  accepts : ∀ v : Value, (∃ m, v.StandsFor n m) ↔
    (∃ row, v.asBits? = some row ∧ row.length = 8 * n) ∨
      ∃ i, v.asInt? = some i ∧ 0 ≤ i ∧ i < 2 ^ (8 * n)
  writes : ∀ {v : Value} {m : Nat}, v.StandsFor n m →
    ∀ {buffer : Bytes} {o : Nat} (order : ByteOrder), o + n ≤ buffer.length →
      ∃ written row, field.encode buffer o v order = .ok written ∧
        ChangedWithin o n buffer written ∧ (written.drop o).take n = order.write n m ∧
        field.decode (.bytes written) o order = pure (.bitBuffer row) ∧ row.length = 8 * n ∧
        row.Spells m
  refuses : ∀ {v : Value}, (¬∃ m, v.StandsFor n m) →
    ∀ {buffer : Bytes} {o : Nat} (order : ByteOrder), o + n ≤ buffer.length →
      field.encode buffer o v order = .error
        (if v.isInt then .unplaced .unworded
        else if Text.isWritable (8 * n) then .unplaced (.wantsBits (Text.ofInt (8 * n)))
        else .bare .badValue)

section
variable {declared : Value} {n : Nat}

theorem exists_standsFor_iff (v : Value) : (∃ m, v.StandsFor n m) ↔
    (∃ row, v.asBits? = some row ∧ row.length = 8 * n) ∨
      ∃ i, v.asInt? = some i ∧ 0 ≤ i ∧ i < 2 ^ (8 * n) := by
  constructor
  · rintro ⟨m, ⟨hi, hm⟩ | ⟨row, hr, hl, -⟩⟩
    · exact .inr ⟨m, hi, by omega, by exact_mod_cast hm⟩
    · exact .inl ⟨row, hr, hl⟩
  · rintro (⟨row, hr, hl⟩ | ⟨i, hi, h0, hlt⟩)
    · obtain ⟨m, hm⟩ := Bits.exists_spells row
      exact ⟨m, .inr ⟨row, hr, hl, hm⟩⟩
    · obtain ⟨m, rfl⟩ := Int.eq_ofNat_of_zero_le h0
      exact ⟨m, .inl ⟨hi, by exact_mod_cast hlt⟩⟩

theorem eightfold_eq (hn : declared.asInt? = some (n : Int)) :
    eightfold declared =
      .ok (if Text.isWritable (8 * n) then some (Text.ofInt (8 * n)) else none) := by
  cases declared with
  | bool | int | member =>
    simp only [eightfold, hn]
    rfl
  | _ => cases hn

theorem bitsOfInt_eq (n : Nat) (i : Int) :
    bitsOfInt n n i = if 0 ≤ i ∧ i < 2 ^ (8 * n) then .ok (Bits.ofNat (8 * n) i.toNat)
      else .error (.unplaced .unworded) := by
  have hfits : 0 ≤ i ∧ (i = 0 ∨ (Nat.log2 i.toNat : Int) < 8 * n) ↔ 0 ≤ i ∧ i < 2 ^ (8 * n) := by
    refine and_congr_right fun h0 => ?_
    obtain ⟨m, rfl⟩ := Int.eq_ofNat_of_zero_le h0
    by_cases hm : m = 0
    · subst hm
      have hpos : (0 : Int) < 2 ^ (8 * n) := Int.pow_pos (by decide)
      simp [hpos]
    · have hlog := Nat.log2_lt (k := 8 * n) hm
      rw [Int.toNat_natCast]
      constructor
      · rintro (h | h)
        · omega
        · exact_mod_cast hlog.mp (by omega)
      · intro h
        exact .inr (by exact_mod_cast hlog.mpr (by exact_mod_cast h))
  have hneg : ¬(n : Int) < 0 := by omega
  have hroom : ¬((n : Int) < n ∧ Value.fixedLimit ≤ (n : Int)) := by omega
  rw [bitsOfInt, if_neg hneg, if_neg hroom, Int.toNat_natCast]
  by_cases h : 0 ≤ i ∧ i < 2 ^ (8 * n)
  · rw [if_pos h, if_pos (hfits.mpr h)]
    rfl
  · rw [if_neg h, if_neg fun hlog => h (hfits.mp hlog)]
    rfl

variable (hn : (bits declared).slotSize? = some n)
include hn

theorem asInt?_size : declared.asInt? = some (n : Int) := (asInt?_declared hn).1

theorem write_bits_of_int {v : Value} {i : Int} (hi : v.asInt? = some i) (order : ByteOrder) :
    (bits declared).write n v order = if 0 ≤ i ∧ i < 2 ^ (8 * n) then .ok (order.write n i.toNat)
      else .error (.unplaced .unworded) := by
  have h8 := eightfold_eq (asInt?_size hn)
  have hb : (bits declared).bitsFor n v = (bitsOfInt n n i).map some := by
    simp only [bitsFor, hi, length_eq hn, bind, Except.bind]
  rw [bitsOfInt_eq] at hb
  by_cases hrange : 0 ≤ i ∧ i < 2 ^ (8 * n)
  · have hl : ((Bits.ofNat (8 * n) i.toNat).length : Int) = 8 * n := by
      rw [Bits.length_ofNat]
      omega
    rw [if_pos hrange] at hb ⊢
    simp only [write, h8, hb, bind, Except.bind, Except.map, if_pos hl,
      Bits.arrangeBig_toBytes_ofNat]
    rfl
  · rw [if_neg hrange] at hb ⊢
    simp only [write, h8, hb, bind, Except.bind]
    rfl

theorem write_bits_of_standsFor {v : Value} {m : Nat} (h : v.StandsFor n m) (order : ByteOrder) :
    (bits declared).write n v order = .ok (order.write n m) := by
  rcases h with ⟨hi, hm⟩ | ⟨row, hr, hl, hm⟩
  · have hrange : (0 : Int) ≤ m ∧ (m : Int) < 2 ^ (8 * n) := ⟨by omega, by exact_mod_cast hm⟩
    rw [write_bits_of_int hn hi, if_pos hrange, Int.toNat_natCast]
  · rw [write_bits (asInt?_size hn) hr hl, hm.arrangeBig_toBytes hl]

theorem write_bits_of_not_standsFor {v : Value} (h : ¬∃ m, v.StandsFor n m) (order : ByteOrder) :
    (bits declared).write n v order = .error
      (if v.isInt then .unplaced .unworded
      else if Text.isWritable (8 * n) then .unplaced (.wantsBits (Text.ofInt (8 * n)))
      else .bare .badValue) := by
  rw [exists_standsFor_iff, not_or] at h
  obtain ⟨hrow, hint⟩ := h
  cases hi : v.asInt? with
  | some i =>
    have hrange : ¬(0 ≤ i ∧ i < 2 ^ (8 * n)) := fun hr => hint ⟨i, hi, hr⟩
    rw [write_bits_of_int hn hi, if_neg hrange, Value.isInt, hi]
    rfl
  | none =>
    have h8 := eightfold_eq (asInt?_size hn)
    have hb : (bits declared).bitsFor n v = .ok v.asBits? := by
      simp only [bitsFor, hi]
      rfl
    have hwrong : (bits declared).write n v order = .error
        (wrongBits (if Text.isWritable (8 * n) then some (Text.ofInt (8 * n)) else none)) := by
      simp only [write, h8, hb, bind, Except.bind]
      cases hr : v.asBits? with
      | none => rfl
      | some row =>
        have hl : ¬(row.length : Int) = 8 * n := fun hl => hrow ⟨row, hr, by omega⟩
        simp only [if_neg hl]
        rfl
    rw [hwrong, Value.isInt, hi]
    simp only [Option.isSome_none, Bool.false_eq_true, if_false]
    split <;> rfl

theorem decode_bits (buffer : Bytes) {o : Nat} (hb : o + n ≤ buffer.length) (order : ByteOrder) :
    (bits declared).decode (.bytes buffer) o order =
      pure (.bitBuffer (Bits.ofBytes (order.arrangeBig ((buffer.drop o).take n)))) := by
  rw [decode_eq_read (.bits declared) hn hb]
  rfl

theorem codesBits_bits : (bits declared).CodesBits n where
  accepts v := exists_standsFor_iff v
  reads {buffer o} order hb := by
    have hl : ((buffer.drop o).take n).length = n := length_take_drop hb
    have hspells := Bits.spells_ofBytes order ((buffer.drop o).take n)
    have hrow : (Bits.ofBytes (order.arrangeBig ((buffer.drop o).take n))).length = 8 * n := by
      rw [Bits.length_ofBytes, order.length_arrangeBig, hl]
    refine ⟨_, decode_bits hn buffer hb order, hrow, hspells, fun {buffer' o'} hb' => ?_⟩
    have hstands : (Value.bitBuffer _).StandsFor n _ := .inr ⟨_, rfl, hrow, hspells⟩
    have hwrite := write_bits_of_standsFor hn hstands order
    have hslot : order.write n (order.read ((buffer.drop o).take n)) = (buffer.drop o).take n := by
      have h := order.write_read ((buffer.drop o).take n)
      rwa [hl] at h
    rw [hslot] at hwrite
    refine ⟨_, ?_, slot_patch (Nat.le_of_add_right_le hb') hl⟩
    rw [encode_eq_patch (.bits declared) hn hb', hwrite]
    rfl
  writes {v m} h {buffer o} order hb := by
    have hl := order.length_write n m
    have hslot := slot_patch (Nat.le_of_add_right_le hb) hl
    have hchanged := changedWithin_patch hb (Nat.le_of_eq hl)
    have hencode : (bits declared).encode buffer o v order =
        .ok (patch buffer o (order.write n m)) := by
      rw [encode_eq_patch (.bits declared) hn hb, write_bits_of_standsFor hn h]
      rfl
    have hm : m < 2 ^ (8 * n) := by
      rcases h with ⟨-, hm⟩ | ⟨row, -, hrow, hm⟩
      · exact hm
      · rw [← hrow]
        exact hm.lt
    have hread : order.read (order.write n m) = m := by
      rw [order.read_write, Nat.mod_eq_of_lt (Bits.two_pow_eight_mul n ▸ hm)]
    have hspells := Bits.spells_ofBytes order (order.write n m)
    rw [hread] at hspells
    have hdecode := decode_bits hn (patch buffer o (order.write n m))
      (by rwa [hchanged.length_eq]) order
    rw [hslot] at hdecode
    refine ⟨_, _, hencode, hchanged, hslot, hdecode, ?_, hspells⟩
    rw [Bits.length_ofBytes, order.length_arrangeBig, hl]
  refuses {v} h {buffer o} order hb := by
    rw [encode_eq_patch (.bits declared) hn hb, write_bits_of_not_standsFor hn h]
    rfl

end

/-! ## Unsigned integers -/

theorem write_unsigned {name letter : String} {width : Nat} {v : Value} {i : Int}
    (hi : v.asInt? = some i) (order : ByteOrder) :
    (integer name false width letter none).write width v order =
      if 0 ≤ i ∧ i < 2 ^ (8 * width) then .ok (order.write width i.toNat)
      else .error (.unplaced .unworded) := by
  have hrange : Code.inRange false width i = true ↔ 0 ≤ i ∧ i < 2 ^ (8 * width) := by
    rw [inRange_iff, byteSpan_eq]
    exact Iff.rfl
  have hu : unwrapped none v = v := rfl
  simp only [integer, write, encode_integer, Code.encode, hu, Value.withIndex_of_asInt? hi]
  by_cases h : 0 ≤ i ∧ i < 2 ^ (8 * width)
  · have hresidue : residue width i = i.toNat := by
      rw [residue, byteSpan_eq, Int.emod_eq_of_lt h.1 h.2]
    rw [if_pos h, if_pos (hrange.mpr h), hresidue]
    rfl
  · rw [if_neg h, if_neg (mt hrange.mp h)]
    rfl

/-- Of one size, bits and an unsigned integer write a number alike, or refuse it alike. -/
theorem encode_bits_eq_unsigned {declared : Value} {name letter : String} {width : Nat}
    (hn : (bits declared).slotSize? = some width)
    (hw : (integer name false width letter none).slotSize? = some width) {v : Value}
    (hv : v.isInt = true) {buffer : Bytes} {o : Nat} (order : ByteOrder)
    (hb : o + width ≤ buffer.length) :
    (bits declared).encode buffer o v order =
      (integer name false width letter none).encode buffer o v order := by
  obtain ⟨i, hi⟩ := Option.isSome_iff_exists.mp hv
  rw [encode_eq_patch (.bits declared) hn hb, encode_eq_patch (.integer ..) hw hb,
    write_bits_of_int hn hi, write_unsigned hi]

/-- A field of bits codes the numbers of its bytes, whether they come as integers or as rows, and
refuses what is neither; an integer it writes as the unsigned field of its size does. -/
theorem bits_outcome {declared : Value} {n : Nat} (hn : (bits declared).slotSize? = some n) :
    (bits declared).CodesBits n ∧
    ∀ uint ∈ [uint8 none, uint16 none, uint32 none, uint64 none], uint.slotSize? = some n →
      ∀ {v : Value}, v.isInt = true → ∀ {buffer : Bytes} {o : Nat} (order : ByteOrder),
        o + n ≤ buffer.length →
        (bits declared).encode buffer o v order = uint.encode buffer o v order := by
  refine ⟨codesBits_bits hn, fun uint hu hw v hv buffer o order hb => ?_⟩
  simp only [List.mem_cons, List.not_mem_nil, or_false] at hu
  rcases hu with rfl | rfl | rfl | rfl
  all_goals
    obtain rfl := width_eq hw
    exact encode_bits_eq_unsigned hn hw hv order hb

theorem bits_outcome_word :
    (∃ row, (bits (.int 2)).decode (.bytes [9, 1, 0x80]) 1 .little = pure (.bitBuffer row) ∧
      row.length = 8 * 2 ∧ row.Spells 0x8001) ∧
    (∃ written, (bits (.int 2)).encode [9, 9, 9] 1 (.int 0x8001) .little = .ok written ∧
      (written.drop 1).take 2 = ByteOrder.little.write 2 0x8001) ∧
    (bits (.int 2)).encode [9, 9, 9] 1 (.int 0x8001) .little =
      (uint16 none).encode [9, 9, 9] 1 (.int 0x8001) .little ∧
    (bits (.int 2)).encode [9, 9, 9] 1 (.bits [true]) .little =
      .error (.unplaced (.wantsBits (Text.ofInt 16))) := by
  have hn : (bits (.int 2)).slotSize? = some 2 := slotSize?_of_declared rfl (by decide)
  obtain ⟨hcodes, huint⟩ := bits_outcome hn
  have hb : 1 + 2 ≤ ([9, 9, 9] : Bytes).length := by decide
  obtain ⟨row, hdecode, hl, hspells, -⟩ :=
    hcodes.reads .little (by decide : 1 + 2 ≤ ([9, 1, 0x80] : Bytes).length)
  obtain ⟨written, -, hencode, -, hslot, -⟩ :=
    hcodes.writes (.inl ⟨Value.asInt?_int (0x8001 : Nat), by decide⟩) .little hb
  have hshort : ¬∃ m, (Value.bits [true]).StandsFor 2 m := by
    rw [hcodes.accepts]
    rintro (⟨row, hr, hl⟩ | ⟨i, hi, -⟩)
    · obtain rfl := Option.some.inj hr
      cases hl
    · cases hi
  refine ⟨⟨row, hdecode, hl, hspells⟩, ⟨written, hencode, hslot⟩, ?_, ?_⟩
  · exact huint (uint16 none) (by simp) rfl rfl .little hb
  · have hw : Text.isWritable (8 * (2 : Nat)) = true :=
      Text.isWritable_of_lt_pow (k := 2) (by decide) (by decide)
    have hrefused := hcodes.refuses hshort .little hb
    rw [hw] at hrefused
    exact hrefused

/-- Where the number of bits has no numeral, a value that is neither is refused by a fault that
does not tell it. -/
theorem encode_bits_untold {n : Nat} (hn : Text.isWritable (8 * n) = false) (buffer : Bytes)
    (order : ByteOrder) :
    (bits (.int n)).encode buffer 0 .none order = .error (.bare .badValue) := by
  have h8 : eightfold (.int n) = .ok none := by
    rw [eightfold_eq (Value.asInt?_int n), hn]
    rfl
  have hs : (bits (.int n)).size = .ok (.int n) := rfl
  have hb : (bits (.int n)).bitsFor buffer.length .none = .ok none := rfl
  simp only [encode, encodeBits, hs, h8, hb, bind, Except.bind]
  rfl

theorem bits_refuses_untold : ∃ n : Nat, (bits (.int n)).slotSize? = some n ∧
    ∀ buffer order, (bits (.int n)).encode buffer 0 .none order = .error (.bare .badValue) := by
  -- the size is given by name only, or it would be computed
  have hlarge : ∀ k, Text.digitLimit ≤ k → ∃ n : Nat, (bits (.int n)).slotSize? = some n ∧
      ∀ buffer order, (bits (.int n)).encode buffer 0 .none order = .error (.bare .badValue) := by
    intro k hk
    have hpow := of_decide_eq_false (Text.isWritable_pow hk)
    have hw : Text.isWritable (8 * (Nat.pow 10 k : Nat)) = false := by
      apply decide_eq_false
      omega
    have hn : (bits (.int (Nat.pow 10 k : Nat))).slotSize? = some (Nat.pow 10 k) :=
      slotSize?_of_declared rfl (Nat.pow_pos (by decide))
    exact ⟨Nat.pow 10 k, hn, encode_bits_untold hw⟩
  exact hlarge _ (Nat.le_refl _)

end Field

end ByteLayout
