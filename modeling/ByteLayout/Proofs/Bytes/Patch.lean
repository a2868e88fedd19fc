import ByteLayout.Bytes.Slice

/-! # Bytes in a place

Writing inside a buffer puts the bytes in the place of as many others: the length stays, and
so does everything before and behind them.
-/
namespace ByteLayout

def patch (buffer : Bytes) (o : Nat) (raw : Bytes) : Bytes :=
  buffer.take o ++ raw ++ buffer.drop (o + raw.length)

theorem length_patch {buffer raw : Bytes} {o : Nat} (h : o + raw.length ≤ buffer.length) :
    (patch buffer o raw).length = buffer.length := by
  simp only [patch, List.length_append, List.length_take, List.length_drop]
  omega

theorem splice_eq_patch {buffer raw : Bytes} {o n : Nat} (h : o + n ≤ buffer.length)
    (hr : raw.length = n) : splice buffer o ((o : Int) + n) raw = patch buffer o raw := by
  subst hr
  exact splice_ofNat buffer raw o raw.length h

/-- Inside a row that is cut into three, only the middle part is touched. -/
theorem patch_append {slot raw : Bytes} (before after : Bytes) (h : raw.length ≤ slot.length) :
    patch (before ++ (slot ++ after)) before.length raw =
      before ++ (raw ++ slot.drop raw.length ++ after) := by
  rw [patch, List.take_left, List.drop_length_add_append, List.drop_append_of_le_length h]
  simp only [List.append_assoc]

/-- Rows that differ in their middle parts, which are of one length. -/
theorem getElem?_append_middle {x y y' z : Bytes} (hl : y'.length = y.length) {i : Nat}
    (hi : i < x.length ∨ x.length + y.length ≤ i) :
    (x ++ (y' ++ z))[i]? = (x ++ (y ++ z))[i]? := by
  rcases hi with hi | hi
  · rw [List.getElem?_append_left hi, List.getElem?_append_left hi]
  · have hx : x.length ≤ i := by omega
    have hy : y.length ≤ i - x.length := by omega
    rw [List.getElem?_append_right hx, List.getElem?_append_right hx,
      List.getElem?_append_right hy, List.getElem?_append_right (by rwa [hl]), hl]

theorem drop_patch {buffer : Bytes} {o : Nat} (h : o ≤ buffer.length) (raw : Bytes) :
    (patch buffer o raw).drop o = raw ++ buffer.drop (o + raw.length) := by
  have hl : (buffer.take o).length = o := List.length_take_of_le h
  rw [patch, List.append_assoc, List.drop_left' hl]

/-- A slot that begins with what has been written, and goes on as it was. -/
theorem take_drop_patch {buffer raw : Bytes} {o n : Nat} (h : o ≤ buffer.length)
    (hr : raw.length ≤ n) :
    ((patch buffer o raw).drop o).take n =
      raw ++ (buffer.drop (o + raw.length)).take (n - raw.length) := by
  rw [drop_patch h, List.take_append, List.take_of_length_le hr]

theorem slot_patch {buffer raw : Bytes} {o n : Nat} (h : o ≤ buffer.length)
    (hr : raw.length = n) : ((patch buffer o raw).drop o).take n = raw := by
  rw [take_drop_patch h (Nat.le_of_eq hr), hr, Nat.sub_self, List.take_zero, List.append_nil]

theorem getElem?_patch {buffer raw : Bytes} {o : Nat} (h : o + raw.length ≤ buffer.length)
    {i : Nat} (hi : i < o ∨ o + raw.length ≤ i) : (patch buffer o raw)[i]? = buffer[i]? := by
  have hx : (buffer.take o).length = o := List.length_take_of_le (Nat.le_of_add_right_le h)
  have hy : ((buffer.drop o).take raw.length).length = raw.length := by
    rw [List.length_take, List.length_drop]
    omega
  have hbuffer : buffer =
      buffer.take o ++ ((buffer.drop o).take raw.length ++ buffer.drop (o + raw.length)) := by
    rw [← List.drop_drop, List.take_append_drop, List.take_append_drop]
  have hmiddle := getElem?_append_middle (x := buffer.take o) (z := buffer.drop (o + raw.length))
    hy.symm (by rwa [hx, hy])
  rwa [← hbuffer, ← List.append_assoc] at hmiddle

theorem slice_eq_take_drop (row : Bytes) (o n : Nat) :
    slice row o ((o : Int) + n) = (row.drop o).take n := by
  have h := slice_ofNat row o (o + n)
  rw [Int.natCast_add] at h
  rw [h, List.drop_take, Nat.add_sub_cancel_left]

theorem length_take_drop {row : Bytes} {o n : Nat} (h : o + n ≤ row.length) :
    ((row.drop o).take n).length = n := by
  rw [List.length_take, List.length_drop]
  omega

theorem slice_zero (row : Bytes) (n : Nat) : slice row 0 (n : Int) = row.take n := by
  have h := slice_ofNat row 0 n
  rwa [Int.natCast_zero, List.drop_zero] at h

theorem padded_eq (n : Nat) (bytes : Bytes) :
    padded n bytes = bytes ++ List.replicate (n - bytes.length) 0 := rfl

theorem length_padded {n : Nat} {bytes : Bytes} (h : bytes.length ≤ n) :
    (padded n bytes).length = n := by
  rw [padded_eq, List.length_append, List.length_replicate]
  omega

theorem padded_of_length {n : Nat} {bytes : Bytes} (h : bytes.length = n) :
    padded n bytes = bytes := by
  rw [padded_eq, h, Nat.sub_self, List.replicate_zero, List.append_nil]

end ByteLayout
