import ByteLayout.Format
import Mathlib.Algebra.Ring.Int.Defs

/-! # Two's complement

The bytes of an integer in two's complement, one by one: negative integers go on to the left with
bytes of ones as others do with zeros, and so many of the lowest bytes are kept. They are what is
written of its residue.
-/
namespace ByteLayout

def twosComplement (order : ByteOrder) (width : Nat) (i : Int) : Bytes :=
  order.arrange ((List.range width).map fun k => UInt8.ofNat (i / 256 ^ k % 256).toNat)

theorem length_twosComplement (order : ByteOrder) (width : Nat) (i : Int) :
    (twosComplement order width i).length = width := by
  rw [twosComplement, order.length_arrange, List.length_map, List.length_range]

/-- The residue without its lowest byte is that of the integer without it. -/
theorem residue_succ (width : Nat) (i : Int) :
    residue (width + 1) i % 256 = (i % 256).toNat ∧
      residue (width + 1) i / 256 = residue width (i / 256) := by
  have hs : (0 : Int) < byteSpan width := Int.natCast_pos.mpr (byteSpan_pos width)
  have hr0 : 0 ≤ i / 256 % byteSpan width := Int.emod_nonneg _ (Int.ne_of_gt hs)
  have hrs : i / 256 % byteSpan width < byteSpan width := Int.emod_lt_of_pos _ hs
  have hres : i % (256 * byteSpan width : Int) = 256 * (i / 256 % byteSpan width) + i % 256 := by
    have hb := Int.mul_ediv_add_emod i 256
    have hq := Int.mul_ediv_add_emod (i / 256) (byteSpan width)
    calc i % (256 * byteSpan width : Int)
      _ = (256 * (i / 256 % byteSpan width) + i % 256 +
            256 * byteSpan width * (i / 256 / byteSpan width)) % (256 * byteSpan width) := by
        congr 1
        rw [Int.mul_assoc]
        omega
      _ = (256 * (i / 256 % byteSpan width) + i % 256) % (256 * byteSpan width) :=
        Int.add_mul_emod_self_left ..
      _ = 256 * (i / 256 % byteSpan width) + i % 256 := Int.emod_eq_of_lt (by omega) (by omega)
  have h256 : ((byteSpan (width + 1) : Nat) : Int) = 256 * byteSpan width := by
    rw [byteSpan_succ, Int.natCast_mul]
    rfl
  rw [residue, residue, h256, hres]
  omega

theorem littleBytes_residue (width : Nat) (i : Int) :
    littleBytes width (residue width i) =
      (List.range width).map fun k => UInt8.ofNat (i / 256 ^ k % 256).toNat := by
  induction width generalizing i with
  | zero => rfl
  | succ width ih =>
    obtain ⟨hlow, hrest⟩ := residue_succ width i
    rw [littleBytes, hlow, hrest, ih, List.range_succ_eq_map, List.map_cons, List.map_map,
      pow_zero, Int.ediv_one]
    refine congrArg _ (List.map_congr_left fun k _ => ?_)
    rw [Function.comp_apply, pow_succ', Int.ediv_ediv_of_nonneg (by decide)]

theorem write_residue (order : ByteOrder) (width : Nat) (i : Int) :
    order.write width (residue width i) = twosComplement order width i := by
  rw [ByteOrder.write, littleBytes_residue, twosComplement]

example : twosComplement .big 4 (-2) = [0xFF, 0xFF, 0xFF, 0xFE] := by decide

def HoldsInt (signed : Bool) (width : Nat) (i : Int) : Prop :=
  if signed then -2 ^ (8 * width - 1) ≤ i ∧ i < 2 ^ (8 * width - 1)
  else 0 ≤ i ∧ i < 2 ^ (8 * width)

instance (signed : Bool) (width : Nat) (i : Int) : Decidable (HoldsInt signed width i) :=
  match signed with
  | true => inferInstanceAs (Decidable (-2 ^ (8 * width - 1) ≤ i ∧ i < 2 ^ (8 * width - 1)))
  | false => inferInstanceAs (Decidable (0 ≤ i ∧ i < 2 ^ (8 * width)))

theorem byteSpan_eq (width : Nat) : (byteSpan width : Int) = 2 ^ (8 * width) := by
  induction width with
  | zero => rfl
  | succ width ih =>
    rw [byteSpan_succ, Int.natCast_mul, ih, Nat.mul_succ, pow_add, Int.mul_comm]
    rfl

theorem inRange_iff_holdsInt {signed : Bool} {width : Nat} (hw : 0 < width) {i : Int} :
    Code.inRange signed width i = true ↔ HoldsInt signed width i := by
  have hhalf : (2 : Int) ^ (8 * width) = 2 * 2 ^ (8 * width - 1) := by
    rw [← pow_succ']
    congr 1
    omega
  cases signed with
  | true =>
    simp only [Code.inRange, HoldsInt, byteSpan_eq, if_true, Bool.and_eq_true, decide_eq_true_eq]
    omega
  | false =>
    simp only [Code.inRange, HoldsInt, byteSpan_eq, Bool.false_eq_true, if_false, Bool.and_eq_true,
      decide_eq_true_eq]

end ByteLayout
