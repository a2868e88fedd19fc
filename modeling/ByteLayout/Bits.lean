import ByteLayout.Bytes.Order

/-! # Rows of bits

A row is read with the most significant bit first. Bytes give eight bits each; a
row whose length is not a multiple of eight is filled up with zeros at its end.
-/
namespace ByteLayout

abbrev Bits := List Bool

namespace Bits

def ofNat : Nat → Nat → Bits
  | 0, _ => []
  | w + 1, n => n.testBit w :: ofNat w n

def toNat (bits : Bits) : Nat := bits.foldl (fun n b => 2 * n + b.toNat) 0

def ofBytes (bytes : Bytes) : Bits := bytes.flatMap fun b => ofNat 8 b.toNat

def octet (bits : Bits) : UInt8 := UInt8.ofNat (toNat bits * bitSpan (8 - bits.length))

def toBytes : Bits → Bytes
  | a :: b :: c :: d :: e :: f :: g :: h :: rest => octet [a, b, c, d, e, f, g, h] :: toBytes rest
  | [] => []
  | short => [octet short]

theorem length_ofNat (w n : Nat) : (ofNat w n).length = w := by
  induction w with
  | zero => rfl
  | succ w ih => rw [ofNat, List.length_cons, ih]

theorem length_ofBytes (bytes : Bytes) : (ofBytes bytes).length = 8 * bytes.length := by
  induction bytes with
  | nil => rfl
  | cons b rest ih =>
    have h : ofBytes (b :: rest) = ofNat 8 b.toNat ++ ofBytes rest := rfl
    rw [h, List.length_append, length_ofNat, ih, List.length_cons]
    omega

theorem octet_ofNat (b : UInt8) : octet (ofNat 8 b.toNat) = b := by
  have h : ∀ n : Fin 256, octet (ofNat 8 n.val) = UInt8.ofNat n.val := by decide +kernel
  have hb := h ⟨b.toNat, b.toNat_lt⟩
  rw [UInt8.ofNat_toNat] at hb
  exact hb

theorem toBytes_ofBytes (bytes : Bytes) : toBytes (ofBytes bytes) = bytes := by
  induction bytes with
  | nil => rfl
  | cons b rest ih =>
    have h : toBytes (ofBytes (b :: rest)) =
        octet (ofNat 8 b.toNat) :: toBytes (ofBytes rest) := rfl
    rw [h, ih, octet_ofNat]

theorem toBytes_append {head : Bits} (h : head.length = 8) (rest : Bits) :
    toBytes (head ++ rest) = octet head :: toBytes rest := by
  match head, h with
  | [_, _, _, _, _, _, _, _], _ => rfl

theorem ofNat_octet {head : Bits} (h : head.length = 8) : ofNat 8 (octet head).toNat = head := by
  have hb : ∀ a b c d e f g h : Bool,
      ofNat 8 (octet [a, b, c, d, e, f, g, h]).toNat = [a, b, c, d, e, f, g, h] := by
    decide +kernel
  match head, h with
  | [a, b, c, d, e, f, g, h], _ => exact hb a b c d e f g h

theorem length_toBytes {row : Bits} {n : Nat} (h : row.length = 8 * n) :
    (toBytes row).length = n := by
  induction n generalizing row with
  | zero =>
    obtain rfl := List.eq_nil_of_length_eq_zero h
    rfl
  | succ n ih =>
    have hh : (row.take 8).length = 8 := by rw [List.length_take]; omega
    have hr : (row.drop 8).length = 8 * n := by rw [List.length_drop]; omega
    rw [← List.take_append_drop 8 row, toBytes_append hh, List.length_cons, ih hr]

theorem ofBytes_toBytes {row : Bits} {n : Nat} (h : row.length = 8 * n) :
    ofBytes (toBytes row) = row := by
  induction n generalizing row with
  | zero =>
    obtain rfl := List.eq_nil_of_length_eq_zero h
    rfl
  | succ n ih =>
    have hh : (row.take 8).length = 8 := by rw [List.length_take]; omega
    have hr : (row.drop 8).length = 8 * n := by rw [List.length_drop]; omega
    have hb : ∀ b bytes, ofBytes (b :: bytes) = ofNat 8 b.toNat ++ ofBytes bytes := fun _ _ => rfl
    rw [← List.take_append_drop 8 row, toBytes_append hh, hb, ih hr, ofNat_octet hh]

end Bits

end ByteLayout
