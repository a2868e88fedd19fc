import ByteLayout.Text.Utf16

/-! # Characters in UTF-16

A unit that has been written is read back as it was, and the units of a character give
that character, whatever follows them. A high unit at the end is replaced.
-/
namespace ByteLayout.Utf16

/-- Two bytes that have been written are a unit again. -/
theorem readUnits_write (order : ByteOrder) {u : Nat} (hu : u < 0x10000) (rest : Bytes) :
    readUnits order (order.write 2 u ++ rest) =
      (u :: (readUnits order rest).1, (readUnits order rest).2) := by
  obtain ⟨a, b, hw⟩ : ∃ a b, order.write 2 u = [a, b] := by cases order <;> exact ⟨_, _, rfl⟩
  have hr : order.read [a, b] = u := by
    rw [← hw, ByteOrder.read_write]
    exact Nat.mod_eq_of_lt hu
  rw [hw]
  simp only [List.cons_append, List.nil_append, readUnits, hr]

theorem decodeUnits_not_high {u : Nat} (odd : Bool) (hh : ¬isHigh u = true) (units : List Nat) :
    decodeUnits odd (u :: units) =
      (if isLow u then Text.replacement else u) :: decodeUnits odd units := by
  cases units <;> simp [decodeUnits, hh]

theorem decodeUnits_single {u : Nat} (odd : Bool) (hh : isHigh u = false) (hl : isLow u = false)
    (units : List Nat) : decodeUnits odd (u :: units) = u :: decodeUnits odd units := by
  rw [decodeUnits_not_high odd (ne_true_of_eq_false hh), hl]
  rfl

theorem decodeUnits_high {u : Nat} (odd : Bool) (hh : isHigh u = true) :
    decodeUnits odd [u] = [Text.replacement] := by
  simp [decodeUnits, hh]

theorem decodeUnits_high_cons {u v : Nat} (odd : Bool) (hh : isHigh u = true)
    (hl : ¬isLow v = true) (units : List Nat) :
    decodeUnits odd (u :: v :: units) = Text.replacement :: decodeUnits odd (v :: units) := by
  simp [decodeUnits, hh, hl]

theorem decodeUnits_pair {u v : Nat} (odd : Bool) (hh : isHigh u = true) (hl : isLow v = true)
    (units : List Nat) :
    decodeUnits odd (u :: v :: units) =
      (0x10000 + (u - 0xD800) * 0x400 + (v - 0xDC00)) :: decodeUnits odd units := by
  simp [decodeUnits, hh, hl]

/-- The units of a character give the character. -/
theorem decodeUnits_encodeChar {c : Nat} (hc : Text.isScalar c = true) (odd : Bool)
    (units : List Nat) :
    decodeUnits odd (encodeChar c ++ units) = c :: decodeUnits odd units := by
  obtain ⟨hh, hs⟩ := Text.isScalar_iff.mp hc
  unfold encodeChar
  by_cases h : c < 0x10000
  · rw [if_pos h]
    refine decodeUnits_single odd ?_ ?_ units
    · simp only [isHigh, Bool.and_eq_false_iff, decide_eq_false_iff_not]
      omega
    · simp only [isLow, Bool.and_eq_false_iff, decide_eq_false_iff_not]
      omega
  · rw [if_neg h]
    have hp := decodeUnits_pair (u := 0xD800 + (c - 0x10000) / 0x400)
      (v := 0xDC00 + (c - 0x10000) % 0x400) odd
      (by simp only [isHigh, Bool.and_eq_true, decide_eq_true_eq]; omega)
      (by simp only [isLow, Bool.and_eq_true, decide_eq_true_eq]; omega) units
    have hv : 0x10000 + (0xD800 + (c - 0x10000) / 0x400 - 0xD800) * 0x400 +
        (0xDC00 + (c - 0x10000) % 0x400 - 0xDC00) = c := by omega
    rw [hv] at hp
    exact hp

theorem lt_of_mem_encodeChar {c u : Nat} (hc : Text.isScalar c = true) (hu : u ∈ encodeChar c) :
    u < 0x10000 := by
  obtain ⟨hh, -⟩ := Text.isScalar_iff.mp hc
  unfold encodeChar at hu
  split at hu
  · obtain rfl := List.mem_singleton.mp hu
    assumption
  · simp only [List.mem_cons, List.not_mem_nil, or_false] at hu
    rcases hu with hu | hu <;> omega

theorem ne_zero_of_mem_encodeChar {c u : Nat} (h0 : c ≠ 0) (hu : u ∈ encodeChar c) : u ≠ 0 := by
  unfold encodeChar at hu
  split at hu
  · obtain rfl := List.mem_singleton.mp hu
    exact h0
  · simp only [List.mem_cons, List.not_mem_nil, or_false] at hu
    rcases hu with hu | hu <;> omega

theorem readUnits_writeUnits (order : ByteOrder) (units : List Nat)
    (hu : ∀ u ∈ units, u < 0x10000) (rest : Bytes) :
    readUnits order (writeUnits order units ++ rest) =
      (units ++ (readUnits order rest).1, (readUnits order rest).2) := by
  induction units with
  | nil => rfl
  | cons u units ih =>
    have hw : writeUnits order (u :: units) ++ rest =
        order.write 2 u ++ (writeUnits order units ++ rest) := by
      rw [writeUnits, List.flatMap_cons, List.append_assoc]
      rfl
    rw [hw, readUnits_write order (hu u List.mem_cons_self),
      ih (fun v hv => hu v (List.mem_cons_of_mem _ hv))]
    rfl

/-- A whole character gives itself, whatever follows. -/
theorem decode_encodeChar (order : ByteOrder) {c : Nat} (hc : Text.isScalar c = true)
    (rest : Bytes) :
    decode order (writeUnits order (encodeChar c) ++ rest) = c :: decode order rest := by
  have hr := readUnits_writeUnits order (encodeChar c) (fun u => lt_of_mem_encodeChar hc) rest
  simp only [decode, hr, decodeUnits_encodeChar hc]

theorem length_writeUnits (order : ByteOrder) (units : List Nat) :
    (writeUnits order units).length = 2 * units.length := by
  induction units with
  | nil => rfl
  | cons u units ih =>
    have hw : writeUnits order (u :: units) = order.write 2 u ++ writeUnits order units := rfl
    rw [hw, List.length_append, ByteOrder.length_write, ih, List.length_cons]
    omega

/-- Each whole unit is read by itself. -/
theorem readUnits_of_length (order : ByteOrder) {n : Nat} {raw : Bytes} (h : raw.length = 2 * n) :
    readUnits order raw =
      ((List.range n).map fun i => order.read ((raw.drop (2 * i)).take 2), false) := by
  induction n generalizing raw with
  | zero =>
    obtain rfl := List.length_eq_zero_iff.mp h
    rfl
  | succ n ih =>
    obtain ⟨a, b, rest, rfl⟩ : ∃ a b rest, raw = a :: b :: rest := by
      rcases raw with _ | ⟨a, _ | ⟨b, rest⟩⟩
      · cases h
      · simp only [List.length_cons, List.length_nil] at h
        omega
      · exact ⟨a, b, rest, rfl⟩
    have hrest : rest.length = 2 * n := by
      simp only [List.length_cons] at h
      omega
    rw [readUnits, ih hrest, List.range_succ_eq_map, List.map_cons, List.map_map]
    rfl

theorem writeUnits_readUnits (order : ByteOrder) {n : Nat} {raw : Bytes}
    (h : raw.length = 2 * n) : writeUnits order (readUnits order raw).1 = raw := by
  fun_induction readUnits order raw generalizing n with
  | case1 a b rest units odd hr ih =>
    have hrest : rest.length = 2 * (n - 1) := by
      simp only [List.length_cons] at h
      omega
    have hrow := ih hrest
    have hw : order.write 2 (order.read [a, b]) = [a, b] := order.write_read [a, b]
    rw [hr, writeUnits] at hrow
    rw [writeUnits, List.flatMap_cons, hw, hrow]
    rfl
  | case2 b =>
    have h1 : 1 = 2 * n := h
    omega
  | case3 => rfl

theorem writeUnits_append (order : ByteOrder) (units more : List Nat) :
    writeUnits order (units ++ more) = writeUnits order units ++ writeUnits order more :=
  List.flatMap_append

theorem writeUnits_zeros (order : ByteOrder) (n : Nat) :
    writeUnits order (List.replicate n 0) = List.replicate (2 * n) 0 := by
  induction n with
  | zero => rfl
  | succ n ih =>
    have hw : order.write 2 0 = List.replicate 2 0 := by cases order <;> rfl
    rw [writeUnits] at ih
    rw [List.replicate_succ, writeUnits, List.flatMap_cons, ih, hw,
      List.replicate_append_replicate, Nat.mul_succ, Nat.add_comm]

theorem length_encodeChar (c : Nat) :
    (encodeChar c).length = 1 ∨ (encodeChar c).length = 2 ∧ 0x10000 ≤ c := by
  unfold encodeChar
  split
  · exact Or.inl rfl
  · exact Or.inr ⟨rfl, by omega⟩

/-- The first unit of a pair is replaced when the second has been cut off. -/
theorem decode_take_encodeChar (order : ByteOrder) {c : Nat} (hc : Text.isScalar c = true)
    (hl : 2 < (writeUnits order (encodeChar c)).length) :
    decode order ((writeUnits order (encodeChar c)).take 2) = [Text.replacement] := by
  obtain ⟨hh, -⟩ := Text.isScalar_iff.mp hc
  rw [length_writeUnits] at hl
  obtain h1 | ⟨-, hc⟩ := length_encodeChar c
  · omega
  have he : encodeChar c = [0xD800 + (c - 0x10000) / 0x400, 0xDC00 + (c - 0x10000) % 0x400] := by
    rw [encodeChar, if_neg (by omega)]
  have hw : (writeUnits order (encodeChar c)).take 2 =
      order.write 2 (0xD800 + (c - 0x10000) / 0x400) ++ [] := by
    rw [he, writeUnits, List.flatMap_cons, List.take_left' (order.length_write 2 _),
      List.append_nil]
  have hr := readUnits_write order (u := 0xD800 + (c - 0x10000) / 0x400) (by omega) []
  have hi : isHigh (0xD800 + (c - 0x10000) / 0x400) = true := by
    simp only [isHigh, Bool.and_eq_true, decide_eq_true_eq]
    omega
  rw [hw, decode, hr]
  simp [readUnits, decodeUnits, hi]

end ByteLayout.Utf16
