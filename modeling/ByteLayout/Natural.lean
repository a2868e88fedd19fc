/-! # Sums and powers

The numbers that sizes are counted with: the total of a row, and how many values fit into
a number of bits or of bytes.
-/
namespace ByteLayout

def total : List Nat → Nat
  | [] => 0
  | n :: rest => n + total rest

def bitSpan (n : Nat) : Nat := Nat.pow 2 n

def byteSpan (w : Nat) : Nat := Nat.pow 256 w

theorem total_append (a b : List Nat) : total (a ++ b) = total a + total b := by
  induction a with
  | nil => rw [List.nil_append, total, Nat.zero_add]
  | cons n rest ih => rw [List.cons_append, total, total, ih, Nat.add_assoc]

theorem byteSpan_zero : byteSpan 0 = 1 := rfl

theorem byteSpan_succ (w : Nat) : byteSpan (w + 1) = 256 * byteSpan w :=
  Nat.mul_comm (byteSpan w) 256

theorem byteSpan_pos (w : Nat) : 0 < byteSpan w := by
  induction w with
  | zero => exact Nat.one_pos
  | succ w ih => rw [byteSpan_succ]; omega

end ByteLayout
