import ByteLayout.Bits
import ByteLayout.Proofs.Bytes.Patch
import Mathlib.Data.List.GetD

/-! # Bits packed and bits spelled out

A row of bits gives eight bits to a byte when it is packed, and one bit to a byte when it is
spelled out item by item. Up to some size the two agree only where there are no bits but zeros.
-/
namespace ByteLayout

theorem getElem?_padded_take {n j : Nat} (bytes : Bytes) (hj : j < n) :
    (padded n (bytes.take n))[j]? = some (bytes.getD j 0) := by
  rw [padded_eq, List.getElem?_append]
  by_cases hb : j < bytes.length
  · have hl : j < (bytes.take n).length := by rw [List.length_take]; omega
    rw [if_pos hl, List.getElem?_take_of_lt hj, List.getElem?_eq_getElem hb,
      List.getD_eq_getElem _ _ hb]
  · have hl : ¬j < (bytes.take n).length := by rw [List.length_take]; omega
    have hr : j - (bytes.take n).length < n - (bytes.take n).length := by omega
    rw [if_neg hl, List.getElem?_replicate_of_lt hr,
      List.getD_eq_default _ _ (Nat.le_of_not_lt hb)]

/-- Rows of one size are equal when each byte is, where the missing ones are zeros. -/
theorem padded_take_eq_iff {n : Nat} {a b : Bytes} :
    padded n (a.take n) = padded n (b.take n) ↔ ∀ j < n, a.getD j 0 = b.getD j 0 := by
  constructor
  · intro h j hj
    have hs := congrArg (·[j]?) h
    simpa only [getElem?_padded_take _ hj, Option.some.injEq] using hs
  · intro h
    apply List.ext_getElem?
    intro j
    by_cases hj : j < n
    · rw [getElem?_padded_take a hj, getElem?_padded_take b hj, h j hj]
    · have hl : ∀ c : Bytes, (padded n (c.take n)).length ≤ j := by
        intro c
        rw [length_padded (List.length_take_le n c)]
        omega
      rw [List.getElem?_eq_none (hl a), List.getElem?_eq_none (hl b)]

namespace Bits

theorem toBytes_eq_cons {row : Bits} (h : row ≠ []) :
    toBytes row = octet (row.take 8) :: toBytes (row.drop 8) := by
  by_cases hl : row.length < 8
  · rw [List.take_of_length_le (by omega), List.drop_eq_nil_of_le (by omega)]
    match row, h, hl with
    | [_], _, _ | [_, _], _, _ | [_, _, _], _, _ | [_, _, _, _], _, _ | [_, _, _, _, _], _, _
    | [_, _, _, _, _, _], _, _ | [_, _, _, _, _, _, _], _, _ => rfl
  · have ht : (row.take 8).length = 8 := by rw [List.length_take]; omega
    rw [← toBytes_append ht, List.take_append_drop]

theorem toNat_append_zeros (bits : Bits) (k : Nat) :
    toNat (bits ++ List.replicate k false) = toNat bits * bitSpan k := by
  induction k with
  | zero => simp [bitSpan]
  | succ k ih =>
    rw [List.replicate_succ', ← List.append_assoc, toNat, List.foldl_append, ← toNat, ih]
    simp only [List.foldl_cons, List.foldl_nil, Bool.toNat_false, bitSpan, Nat.pow_eq, Nat.pow_succ]
    rw [Nat.add_zero, Nat.mul_left_comm, Nat.mul_comm (2 ^ k)]

/-- A short byte has its bits first and zeros behind them. -/
theorem getD_ofNat_octet {head : Bits} (h : head.length ≤ 8) (k : Nat) :
    (ofNat 8 (octet head).toNat).getD k false = head.getD k false := by
  have hf : (head ++ List.replicate (8 - head.length) false).length = 8 := by
    rw [List.length_append, List.length_replicate]; omega
  have ho : octet head = octet (head ++ List.replicate (8 - head.length) false) := by
    rw [octet, octet, toNat_append_zeros, hf]
    simp [bitSpan]
  rw [ho, ofNat_octet hf, List.getD_eq_getElem?_getD, List.getElem?_append]
  by_cases hk : k < head.length
  · rw [if_pos hk, List.getD_eq_getElem?_getD]
  · rw [if_neg hk, List.getElem?_replicate, List.getD_eq_default _ _ (Nat.le_of_not_lt hk)]
    split <;> rfl

/-- Each bit of a row stands in its place of its byte of the packed row. -/
theorem getD_byte (row : Bits) (j : Nat) {k : Nat} (hk : k < 8) :
    (ofNat 8 ((toBytes row).getD j 0).toNat).getD k false = row.getD (8 * j + k) false := by
  by_cases h : row = []
  · subst h
    have hz : ∀ i : Fin 8, (ofNat 8 0).getD i false = false := by decide
    exact hz ⟨k, hk⟩
  · rw [toBytes_eq_cons h]
    cases j with
    | zero =>
      rw [List.getD_cons_zero, getD_ofNat_octet (List.length_take_le 8 row), Nat.mul_zero,
        Nat.zero_add, List.getD_eq_getElem?_getD, List.getElem?_take_of_lt hk,
        List.getD_eq_getElem?_getD]
    | succ j =>
      rw [List.getD_cons_succ, getD_byte (row.drop 8) j hk, List.getD_eq_getElem?_getD,
        List.getElem?_drop, List.getD_eq_getElem?_getD]
      congr 2
      omega

theorem eq_zero_of_bits {b : UInt8} (h : ∀ k < 8, (ofNat 8 b.toNat).getD k false = false) :
    b = 0 := by
  have hr : ofNat 8 b.toNat = List.replicate 8 false := by
    apply List.ext_getElem
    · rw [length_ofNat, List.length_replicate]
    · intro k hk _
      rw [length_ofNat] at hk
      have hb := h k hk
      rw [List.getD_eq_getElem _ _ (by rwa [length_ofNat])] at hb
      rw [hb, List.getElem_replicate]
  rw [← octet_ofNat b, hr]
  rfl

def spelled (row : Bits) : Bytes := row.map fun b => if b then 1 else 0

theorem getD_spelled (row : Bits) (j : Nat) :
    (spelled row).getD j 0 = if row.getD j false then 1 else 0 := by
  rw [spelled, List.getD_eq_getElem?_getD, List.getElem?_map, List.getD_eq_getElem?_getD]
  cases row[j]? <;> rfl

/-- A packed row and a spelled one agree on a byte only where none of the bits before them is
set: the bit of a place is found in a byte that stands further to the front. -/
theorem padded_toBytes_eq_spelled_iff {n : Nat} {row : Bits} :
    padded n ((toBytes row).take n) = padded n ((spelled row).take n) ↔
      ∀ i < 8 * n, row.getD i false = false := by
  rw [padded_take_eq_iff]
  constructor
  · intro h i
    induction i using Nat.strongRecOn with
    | ind i ih =>
      intro hi
      have hb := getD_byte row (i / 8) (Nat.mod_lt i (by omega : 0 < 8))
      rw [Nat.div_add_mod, h (i / 8) (by omega), getD_spelled] at hb
      by_cases h0 : i = 0
      · subst h0
        cases hr : row.getD 0 false with
        | false => rfl
        | true =>
          rw [Nat.zero_div, hr] at hb
          exact hb.symm
      · rw [ih (i / 8) (by omega) (by omega)] at hb
        rw [← hb]
        have hz : ∀ k : Fin 8, (ofNat 8 0).getD k false = false := by decide
        exact hz ⟨i % 8, Nat.mod_lt i (by omega)⟩
  · intro h j hj
    rw [getD_spelled, h j (by omega)]
    apply eq_zero_of_bits
    intro k hk
    rw [getD_byte row j hk, h (8 * j + k) (by omega)]

theorem ofNat_eq_zeros_iff {w m : Nat} :
    ofNat w m = List.replicate w false ↔ ∀ i < w, m.testBit i = false := by
  induction w with
  | zero => simp [ofNat]
  | succ w ih =>
    rw [ofNat, List.replicate_succ, List.cons.injEq, ih]
    constructor
    · rintro ⟨hw, h⟩ i hi
      by_cases he : i = w
      · rw [he, hw]
      · exact h i (by omega)
    · intro h
      exact ⟨h w (by omega), fun i hi => h i (by omega)⟩

/-- Among the numbers that fit only zero has no bit set. -/
theorem eq_zero_of_ofNat_eq_zeros {w m : Nat} (hm : m < bitSpan w)
    (h : ofNat w m = List.replicate w false) : m = 0 := by
  apply Nat.eq_of_testBit_eq
  intro i
  rw [Nat.zero_testBit]
  by_cases hi : i < w
  · exact ofNat_eq_zeros_iff.mp h i hi
  · have hspan : bitSpan w ≤ Nat.pow 2 i := Nat.pow_le_pow_right (by omega) (by omega)
    exact Nat.testBit_lt_two_pow (Nat.lt_of_lt_of_le hm hspan)

end Bits

end ByteLayout
