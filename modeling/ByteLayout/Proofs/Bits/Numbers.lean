import ByteLayout.Bits
import ByteLayout.Proofs.Bytes.TwosComplement
import Mathlib.Algebra.Group.Nat.Defs

/-! # The number of a row of bits

A row of bits spells a number with its least significant bit last. The bits of bytes, in the order
with the most significant byte first, spell the number that the bytes hold in their own order; so
the bytes of a number are those of its bits.
-/
namespace ByteLayout.Bits

/-- The bits of the row, counted from its end, are those of a number that has no others. -/
structure Spells (row : Bits) (m : Nat) : Prop where
  lt : m < 2 ^ row.length
  bit : ∀ k < row.length, row[row.length - 1 - k]? = some (m.testBit k)

theorem getElem?_ofNat {w i : Nat} (m : Nat) (hi : i < w) :
    (ofNat w m)[i]? = some (m.testBit (w - 1 - i)) := by
  induction w generalizing i with
  | zero => exact absurd hi (Nat.not_lt_zero i)
  | succ w ih =>
    rw [ofNat]
    cases i with
    | zero => rfl
    | succ i =>
      rw [List.getElem?_cons_succ, ih (by omega)]
      congr 2
      omega

theorem ofNat_congr {w m m' : Nat} (h : ∀ k < w, m.testBit k = m'.testBit k) :
    ofNat w m = ofNat w m' := by
  induction w with
  | zero => rfl
  | succ w ih => rw [ofNat, ofNat, h w (by omega), ih fun k hk => h k (by omega)]

theorem ofNat_mod (w m : Nat) : ofNat w (m % 2 ^ w) = ofNat w m := by
  apply ofNat_congr
  intro k hk
  rw [Nat.testBit_mod_two_pow, decide_eq_true hk, Bool.true_and]

theorem ofNat_add (a w m : Nat) : ofNat (a + w) m = ofNat a (m / 2 ^ w) ++ ofNat w m := by
  induction a with
  | zero => rw [Nat.zero_add, ofNat, List.nil_append]
  | succ a ih =>
    have hbit : (m / 2 ^ w).testBit a = m.testBit (a + w) := by
      rw [Nat.testBit_div_two_pow, Nat.add_comm]
    rw [Nat.succ_add, ofNat, ih, ofNat, hbit, List.cons_append]

theorem spells_ofNat {w m : Nat} (hm : m < 2 ^ w) : Spells (ofNat w m) m where
  lt := by rwa [length_ofNat]
  bit k hk := by
    rw [length_ofNat] at hk ⊢
    rw [getElem?_ofNat m (by omega)]
    congr 2
    omega

theorem Spells.eq_ofNat {row : Bits} {m : Nat} (h : row.Spells m) : row = ofNat row.length m := by
  apply List.ext_getElem?
  intro i
  by_cases hi : i < row.length
  · have hbit := h.bit (row.length - 1 - i) (by omega)
    have hback : row.length - 1 - (row.length - 1 - i) = i := by omega
    rw [hback] at hbit
    rw [hbit, getElem?_ofNat m hi]
  · have hl := length_ofNat row.length m
    rw [List.getElem?_eq_none (by omega), List.getElem?_eq_none (by omega)]

/-- By induction on the row: its first bit is the most significant. -/
theorem exists_spells (row : Bits) : ∃ m, row.Spells m := by
  have hrow : ∃ m < 2 ^ row.length, row = ofNat row.length m := by
    induction row with
    | nil => exact ⟨0, Nat.one_pos, rfl⟩
    | cons b rest ih =>
      obtain ⟨m, hm, hrest⟩ := ih
      have hspan : 2 ^ (rest.length + 1) = 2 ^ rest.length + 2 ^ rest.length := by
        rw [Nat.pow_succ, Nat.mul_two]
      rw [List.length_cons, hspan]
      have htop : m.testBit rest.length = false := Nat.testBit_lt_two_pow hm
      cases b with
      | false =>
        refine ⟨m, by omega, ?_⟩
        rw [ofNat, htop, ← hrest]
      | true =>
        refine ⟨2 ^ rest.length + m, by omega, ?_⟩
        have hlow : ofNat rest.length (2 ^ rest.length + m) = ofNat rest.length m :=
          ofNat_congr fun k hk => Nat.testBit_two_pow_add_gt hk m
        rw [ofNat, Nat.testBit_two_pow_add_eq, htop, hlow, ← hrest]
        rfl
  obtain ⟨m, hm, hr⟩ := hrow
  refine ⟨m, ?_⟩
  rw [hr]
  exact spells_ofNat hm

theorem two_pow_eight_mul (n : Nat) : 2 ^ (8 * n) = byteSpan n := by
  have h := byteSpan_eq n
  exact_mod_cast h.symm

/-! ## Bytes -/

theorem littleNat_append (low high : Bytes) :
    littleNat (low ++ high) = littleNat low + byteSpan low.length * littleNat high := by
  induction low with
  | nil =>
    rw [List.nil_append, littleNat, List.length_nil, byteSpan_zero, Nat.one_mul, Nat.zero_add]
  | cons b low ih =>
    rw [List.cons_append, littleNat, littleNat, ih, List.length_cons, byteSpan_succ, Nat.mul_add,
      Nat.mul_assoc, Nat.add_assoc]

/-- The bytes of a row of bits come with the most significant first. -/
theorem ofBytes_eq_ofNat (raw : Bytes) :
    ofBytes raw = ofNat (8 * raw.length) (littleNat raw.reverse) := by
  induction raw with
  | nil => rfl
  | cons b rest ih =>
    have hrest : littleNat rest.reverse < 2 ^ (8 * rest.length) := by
      rw [two_pow_eight_mul, ← List.length_reverse]
      exact littleNat_lt rest.reverse
    have hsum : littleNat (b :: rest).reverse =
        littleNat rest.reverse + 2 ^ (8 * rest.length) * b.toNat := by
      rw [List.reverse_cons, littleNat_append, List.length_reverse, two_pow_eight_mul]
      rfl
    have hhigh : littleNat (b :: rest).reverse / 2 ^ (8 * rest.length) = b.toNat := by
      rw [hsum, Nat.add_mul_div_left _ _ (Nat.two_pow_pos _), Nat.div_eq_of_lt hrest, Nat.zero_add]
    have hlow : littleNat (b :: rest).reverse % 2 ^ (8 * rest.length) = littleNat rest.reverse := by
      rw [hsum, Nat.add_mul_mod_self_left, Nat.mod_eq_of_lt hrest]
    have hl : 8 * (b :: rest).length = 8 + 8 * rest.length := by
      rw [List.length_cons]
      omega
    rw [hl, ofNat_add, hhigh, ← ofNat_mod (8 * rest.length), hlow, ← ih]
    rfl

/-- In either order the bits of a slot spell the number that it holds. -/
theorem ofBytes_arrangeBig (order : ByteOrder) (slot : Bytes) :
    ofBytes (order.arrangeBig slot) = ofNat (8 * slot.length) (order.read slot) := by
  rw [ofBytes_eq_ofNat, order.length_arrangeBig]
  cases order with
  | little => rw [ByteOrder.arrangeBig, List.reverse_reverse, ByteOrder.read, ByteOrder.arrange]
  | big => rw [ByteOrder.arrangeBig, ByteOrder.read, ByteOrder.arrange]

theorem spells_ofBytes (order : ByteOrder) (slot : Bytes) :
    (ofBytes (order.arrangeBig slot)).Spells (order.read slot) := by
  have hlt := littleNat_lt (order.arrange slot)
  rw [order.length_arrange, ← two_pow_eight_mul] at hlt
  rw [ofBytes_arrangeBig]
  exact spells_ofNat hlt

/-- The bytes of the bits of a number are those of the number. -/
theorem arrangeBig_toBytes_ofNat (order : ByteOrder) (n m : Nat) :
    order.arrangeBig (toBytes (ofNat (8 * n) m)) = order.write n m := by
  have hbits : ofBytes (order.arrangeBig (order.write n m)) = ofNat (8 * n) m := by
    rw [ofBytes_arrangeBig, order.length_write, order.read_write, ← two_pow_eight_mul, ofNat_mod]
  rw [← hbits, toBytes_ofBytes, order.arrangeBig_arrangeBig]

theorem Spells.arrangeBig_toBytes {row : Bits} {n m : Nat} (h : row.Spells m)
    (hl : row.length = 8 * n) (order : ByteOrder) :
    order.arrangeBig (toBytes row) = order.write n m := by
  rw [h.eq_ofNat, hl, arrangeBig_toBytes_ofNat]

end ByteLayout.Bits
