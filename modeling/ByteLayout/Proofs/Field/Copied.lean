import ByteLayout.Proofs.Bits.Octets
import ByteLayout.Proofs.Field.RoundTrip
import ByteLayout.Proofs.Field.Slot

/-! # What a copied value is written as

Most fields share a value when they copy it. Those of bytes and of bits make a row of their own,
and take the value for what the row is made from: an integer for a length, and bits for items
instead of parts of bytes.
-/
namespace ByteLayout

namespace Value

theorem content_of_index {v : Value} {i : Int} (h : v.index? = some (.ok i)) :
    v.content = zeroRow fixedLimit 0 i := by
  cases v with
  | bool | int | member | record | indexed => simp only [content, h]
  | _ => cases h

theorem zeroRow_of_fixed {i : Int} {row : Bytes} (h : zeroRow fixedLimit 0 i = .ok row) :
    zeroRow lengthLimit 0 i = .ok row := by
  have hle : fixedLimit ≤ lengthLimit := Nat.sub_le lengthLimit 33
  unfold zeroRow at h ⊢
  split at h
  · cases h
  · rwa [if_neg (by omega)]

/-- An item-by-item copy of what is no row of bits has the same content. -/
theorem copiedBytes_of_content {v : Value} {row : Bytes} (hb : v.asBits? = .none)
    (h : v.content = .ok row) : v.copiedBytes = .ok row := by
  cases hi : v.index? with
  | none =>
    simp only [copiedBytes, hb, hi]
    exact h
  | some index =>
    cases index with
    | error kind =>
      simp only [copiedBytes, hb, hi]
      exact h
    | ok i =>
      rw [content_of_index hi] at h
      simp only [copiedBytes, hb, hi]
      exact zeroRow_of_fixed h

theorem copiedBytes_of_bits {v : Value} {row : Bits} (h : v.asBits? = some row) :
    v.copiedBytes = .ok row.spelled := by
  simp only [copiedBytes, h]
  rfl

theorem content_of_bits {v : Value} {row : Bits} (h : v.asBits? = some row) :
    v.content = .ok row.toBytes := by
  cases v with
  | bits r | bitBuffer r =>
    cases h
    rfl
  | _ => cases h

theorem copiedBits_of_bits {v : Value} {row : Bits} (h : v.asBits? = some row) :
    v.copiedBits = .ok row := by
  cases v with
  | bits r | bitBuffer r =>
    cases h
    rfl
  | _ => cases h

/-- The copy of an integer is a row of that many zeros. -/
theorem copiedBits_of_int {v : Value} {i : Int} (h : v.asInt? = some i) {row : Bits}
    (hc : v.copiedBits = .ok row) : row = List.replicate i.toNat false := by
  have hz : ∀ {limit : Nat}, zeroRow limit false i = .ok row →
      row = List.replicate i.toNat false := by
    intro limit hz
    unfold zeroRow at hz
    repeat' split at hz
    all_goals cases hz
    rfl
  cases v with
  | bool | int | member =>
    simp only [copiedBits, h] at hc
    split at hc
    · cases hc
    · exact hz hc
  | _ => cases h

end Value

namespace Field

/-- Whether the copy of a value that the field takes is written as the value itself: for bits a
value that is no integer, and for bytes one that has no bit set among those the field takes. -/
def KeepsCopy (field : Field) (n : Nat) (v : Value) : Prop :=
  match field with
  | bytes _ => ∀ row, v.asBits? = some row → ∀ i < 8 * n, row.getD i false = false
  | bits _ => v.asInt? = none
  | _ => True

section
variable {declared v : Value} {n : Nat} {order : ByteOrder} {raw : Bytes}

theorem write_buffer (order : ByteOrder) (n : Nat) (content : Bytes) :
    (bytes declared).write n (.buffer content) order = .ok (padded n (content.take n)) := rfl

theorem copy_bytes_iff (h : (bytes declared).write n v order = .ok raw) :
    (∃ w, (bytes declared).copy v = .ok w ∧ (bytes declared).write n w order = .ok raw) ↔
      (bytes declared).KeepsCopy n v := by
  obtain ⟨content, hc, rfl⟩ := exists_content_of_write h
  cases hb : v.asBits? with
  | none =>
    have hk : (bytes declared).KeepsCopy n v := fun row hrow => by
      rw [hb] at hrow
      cases hrow
    refine iff_of_true ⟨.buffer content, ?_, write_buffer order n content⟩ hk
    rw [copy, Value.copiedBytes_of_content hb hc]
    rfl
  | some row =>
    obtain rfl : row.toBytes = content := Except.ok.inj ((Value.content_of_bits hb).symm.trans hc)
    have hk : (bytes declared).KeepsCopy n v ↔ ∀ i < 8 * n, row.getD i false = false := by
      simp only [KeepsCopy, hb, Option.some.injEq, forall_eq']
    have hcopy : (bytes declared).copy v = .ok (.buffer row.spelled) := by
      rw [copy, Value.copiedBytes_of_bits hb]
      rfl
    rw [hk, ← Bits.padded_toBytes_eq_spelled_iff, hcopy]
    constructor
    · rintro ⟨w, hw, hr⟩
      cases hw
      rw [write_buffer] at hr
      exact (Except.ok.inj hr).symm
    · intro he
      exact ⟨_, rfl, by rw [write_buffer, he]⟩

theorem bitsFor_of_int (hn : (bits declared).slotSize? = some n) {i : Int}
    (hi : v.asInt? = some i) {row : Bits} (h : (bits declared).bitsFor n v = .ok (some row)) :
    row = Bits.ofNat (8 * n) i.toNat ∧ 0 ≤ i ∧ i.toNat < bitSpan (8 * n) := by
  simp only [bitsFor, hi, length_eq hn, bind, Except.bind, bitsOfInt] at h
  split at h
  · cases h
  · split at h
    · cases h
    · split at h
      · next hr =>
        cases h
        refine ⟨by simp, hr.1, ?_⟩
        rcases hr.2 with rfl | hlog
        · exact Nat.pow_pos (by omega)
        · by_cases h0 : i.toNat = 0
          · rw [h0]
            exact Nat.pow_pos (by omega)
          · exact (Nat.log2_lt h0).mp (by omega)
      · cases h

theorem copy_bits_iff (hn : (bits declared).slotSize? = some n)
    (h : (bits declared).write n v order = .ok raw) :
    (∃ w, (bits declared).copy v = .ok w ∧ (bits declared).write n w order = .ok raw) ↔
      (bits declared).KeepsCopy n v := by
  obtain ⟨hd, hpos⟩ := asInt?_declared hn
  obtain ⟨row, hr, hl, rfl⟩ := exists_row_of_write h
  cases hi : v.asInt? with
  | none =>
    have hb : v.asBits? = some row := by
      simpa only [bitsFor, hi, pure, Except.pure, Except.ok.injEq] using hr
    refine iff_of_true ⟨.bitBuffer row, ?_, write_bits hd rfl hl⟩ hi
    rw [copy, Value.copiedBits_of_bits hb]
    rfl
  | some i =>
    refine iff_of_false ?_ (by simp [KeepsCopy, hi])
    rintro ⟨w, hc, hw⟩
    obtain ⟨rfl, h0, hlt⟩ := bitsFor_of_int hn hi hr
    -- The copy is a row of `i` zeros, which fits only if `i` is the number of bits.
    cases hz : v.copiedBits with
    | error fault =>
      rw [copy, hz] at hc
      cases hc
    | ok zeros =>
      obtain rfl := Value.copiedBits_of_int hi hz
      rw [copy, hz] at hc
      cases hc
      obtain ⟨row', hr', hl', he⟩ := exists_row_of_write hw
      have hzeros : List.replicate i.toNat false = row' := by
        simpa [bitsFor, Value.asInt?, Value.asBits?, pure, Except.pure] using hr'
      subst hzeros
      have hbytes := congrArg order.arrangeBig he
      rw [order.arrangeBig_arrangeBig, order.arrangeBig_arrangeBig] at hbytes
      have hrow := congrArg Bits.ofBytes hbytes
      rw [Bits.ofBytes_toBytes hl, Bits.ofBytes_toBytes hl'] at hrow
      rw [List.length_replicate] at hl'
      rw [hl'] at hrow hlt
      have := Bits.eq_zero_of_ofNat_eq_zeros hlt hrow
      omega

end

/-- Where all that is written fills the slot, nothing is left to be filled up. -/
theorem exists_alike_iff {field : Field} {n : Nat} {v : Value} {order : ByteOrder} {raw : Bytes}
    (hl : ∀ u raw, field.write n u order = .ok raw → raw.length = n)
    (h : field.write n v order = .ok raw) :
    (∃ w raw', field.copy v = .ok w ∧ field.write n w order = .ok raw' ∧
      padded n raw' = padded n raw) ↔
      ∃ w, field.copy v = .ok w ∧ field.write n w order = .ok raw := by
  rw [padded_of_length (hl v raw h)]
  constructor
  · rintro ⟨w, raw', hc, hw, hp⟩
    rw [padded_of_length (hl w raw' hw)] at hp
    exact ⟨w, hc, hp ▸ hw⟩
  · rintro ⟨w, hc, hw⟩
    exact ⟨w, raw, hc, hw, padded_of_length (hl w raw hw)⟩

/-- A field that takes a value fills its slot with a copy of it the same way exactly when it
keeps the copy. -/
theorem copy_iff {field : Field} (hf : field.BuiltIn) {n : Nat} (hn : field.slotSize? = some n)
    {v : Value} {order : ByteOrder} {raw : Bytes} (h : field.write n v order = .ok raw) :
    (∃ w raw', field.copy v = .ok w ∧ field.write n w order = .ok raw' ∧
      padded n raw' = padded n raw) ↔ field.KeepsCopy n v := by
  cases hf with
  | bytes size => rw [exists_alike_iff (fun _ _ => length_write_bytes) h, copy_bytes_iff h]
  | bits size => rw [exists_alike_iff (fun _ _ => length_write_bits) h, copy_bits_iff hn h]
  | integer | string | cstring => exact iff_of_true ⟨v, raw, rfl, h, rfl⟩ trivial

end Field

end ByteLayout
