import ByteLayout.Text.Utf8

/-! # Characters in UTF-8

The machine reads the bytes of a character and nothing else from them: a whole character
gives itself, and a part of one that is not whole leaves it open.
-/
namespace ByteLayout.Utf8

theorem toNat_ofNat_of_lt {n : Nat} (h : n < 256) : (UInt8.ofNat n).toNat = n := by
  rw [UInt8.toNat_ofNat']
  exact Nat.mod_eq_of_lt h

theorem first_one {b : Nat} (h : b < 0x80) : first b = ([b], none) := by
  rw [first, if_pos h]

theorem first_two {b : Nat} (hl : 0xC2 ≤ b) (hh : b < 0xE0) :
    first b = ([], some ⟨b - 0xC0, 1, 0x80, 0xBF⟩) := by
  rw [first, if_neg (by omega), if_neg (by omega), if_pos hh]

/-- The two lead bytes whose next byte has a range of its own keep out overlong forms and
surrogates. -/
theorem first_three {b : Nat} (hl : 0xE0 ≤ b) (hh : b < 0xF0) :
    first b = ([], some ⟨b - 0xE0, 2, if b = 0xE0 then 0xA0 else 0x80,
      if b = 0xED then 0x9F else 0xBF⟩) := by
  rw [first, if_neg (by omega), if_neg (by omega), if_neg (by omega)]
  by_cases h0 : b = 0xE0
  · subst h0
    rfl
  · by_cases hd : b = 0xED
    · subst hd
      rfl
    · rw [if_neg h0, if_neg hd, if_pos hh, if_neg h0, if_neg hd]

theorem first_four {b : Nat} (hl : 0xF0 ≤ b) (hh : b ≤ 0xF4) :
    first b = ([], some ⟨b - 0xF0, 3, if b = 0xF0 then 0x90 else 0x80,
      if b = 0xF4 then 0x8F else 0xBF⟩) := by
  rw [first, if_neg (by omega), if_neg (by omega), if_neg (by omega), if_neg (by omega),
    if_neg (by omega), if_neg (by omega)]
  by_cases h0 : b = 0xF0
  · subst h0
    rfl
  · by_cases h4 : b = 0xF4
    · subst h4
      rfl
    · rw [if_neg h0, if_pos (by omega), if_neg h0, if_neg h4]

/-- A byte is a character, or leaves one open as a lead byte, or is replaced. -/
theorem first_cases {motive : Step → Prop} {b : Nat} (one : b < 0x80 → motive ([b], none))
    (two : 0xC2 ≤ b → b < 0xE0 → motive ([], some ⟨b - 0xC0, 1, 0x80, 0xBF⟩))
    (three : 0xE0 ≤ b → b < 0xF0 → motive ([], some ⟨b - 0xE0, 2, if b = 0xE0 then 0xA0 else 0x80,
      if b = 0xED then 0x9F else 0xBF⟩))
    (four : 0xF0 ≤ b → b ≤ 0xF4 → motive ([], some ⟨b - 0xF0, 3, if b = 0xF0 then 0x90 else 0x80,
      if b = 0xF4 then 0x8F else 0xBF⟩))
    (invalid : motive ([Text.replacement], none)) : motive (first b) := by
  by_cases h1 : b < 0x80
  · rw [first_one h1]
    exact one h1
  by_cases h2 : b < 0xC2
  · rw [first, if_neg h1, if_pos h2]
    exact invalid
  by_cases h3 : b < 0xE0
  · rw [first_two (by omega) h3]
    exact two (by omega) h3
  by_cases h4 : b < 0xF0
  · rw [first_three (by omega) h4]
    exact three (by omega) h4
  by_cases h5 : b ≤ 0xF4
  · rw [first_four (by omega) h5]
    exact four (by omega) h5
  · have hf : first b = ([Text.replacement], none) := by
      simp only [first]
      repeat' rw [if_neg (by omega)]
    rw [hf]
    exact invalid

theorem step_more {p : Pending} {b : Nat} (hl : p.low ≤ b) (hh : b ≤ p.high) (ho : 1 < p.owed) :
    step (some p) b = ([], some ⟨p.bits * 64 + b % 64, p.owed - 1, 0x80, 0xBF⟩) := by
  rw [step, if_pos ⟨hl, hh⟩]
  exact if_neg (by omega)

theorem step_last {p : Pending} {b : Nat} (hl : p.low ≤ b) (hh : b ≤ p.high) (ho : p.owed ≤ 1) :
    step (some p) b = ([p.bits * 64 + b % 64], none) := by
  rw [step, if_pos ⟨hl, hh⟩]
  exact if_pos ho

/-- A byte that leaves a character open gives nothing yet. -/
theorem run_cons_open {state : Option Pending} {p : Pending} {n : Nat} (hn : n < 256)
    (h : step state n = ([], some p)) (rest : Bytes) :
    run state (UInt8.ofNat n :: rest) = run (some p) rest := by
  rw [run, toNat_ofNat_of_lt hn, h, List.nil_append]

theorem run_cons_close {state : Option Pending} {c n : Nat} (hn : n < 256)
    (h : step state n = ([c], none)) (rest : Bytes) :
    run state (UInt8.ofNat n :: rest) = c :: run none rest := by
  rw [run, toNat_ofNat_of_lt hn, h, List.singleton_append]

section Lead
variable {c : Nat}

theorem run_lead_two (hl : 0x80 ≤ c) (hh : c < 0x800) (rest : Bytes) :
    run none (UInt8.ofNat (0xC0 + c / 64) :: rest) =
      run (some ⟨c / 64, 1, 0x80, 0xBF⟩) rest := by
  apply run_cons_open (by omega)
  rw [step, first_two (by omega) (by omega), Nat.add_sub_cancel_left]

theorem run_lead_three (hh : c < 0x10000) (rest : Bytes) :
    run none (UInt8.ofNat (0xE0 + c / 4096) :: rest) =
      run (some ⟨c / 4096, 2, if c / 4096 = 0 then 0xA0 else 0x80,
        if c / 4096 = 0xD then 0x9F else 0xBF⟩) rest := by
  apply run_cons_open (by omega)
  rw [step, first_three (by omega) (by omega), Nat.add_sub_cancel_left]
  have h0 : (0xE0 + c / 4096 = 0xE0) = (c / 4096 = 0) := by simp
  have hd : (0xE0 + c / 4096 = 0xED) = (c / 4096 = 0xD) := propext (by omega)
  simp only [h0, hd]

theorem run_lead_four (hh : c < 0x110000) (rest : Bytes) :
    run none (UInt8.ofNat (0xF0 + c / 262144) :: rest) =
      run (some ⟨c / 262144, 3, if c / 262144 = 0 then 0x90 else 0x80,
        if c / 262144 = 4 then 0x8F else 0xBF⟩) rest := by
  apply run_cons_open (by omega)
  rw [step, first_four (by omega) (by omega), Nat.add_sub_cancel_left]
  have h0 : (0xF0 + c / 262144 = 0xF0) = (c / 262144 = 0) := by simp
  have h4 : (0xF0 + c / 262144 = 0xF4) = (c / 262144 = 4) := propext (by omega)
  simp only [h0, h4]

/-- The second byte of three lies in the range that the lead byte leaves to it. -/
theorem run_second_three (hl : 0x800 ≤ c) (hs : c < 0xD800 ∨ 0xDFFF < c) (rest : Bytes) :
    run (some ⟨c / 4096, 2, if c / 4096 = 0 then 0xA0 else 0x80,
        if c / 4096 = 0xD then 0x9F else 0xBF⟩) (UInt8.ofNat (0x80 + c / 64 % 64) :: rest) =
      run (some ⟨c / 64, 1, 0x80, 0xBF⟩) rest := by
  apply run_cons_open (by omega)
  rw [step_more (by dsimp only; split <;> omega) (by dsimp only; split <;> omega)
    (by dsimp only; omega)]
  have hb : c / 4096 * 64 + (0x80 + c / 64 % 64) % 64 = c / 64 := by omega
  simp only [hb]

theorem run_second_four (hl : 0x10000 ≤ c) (hh : c < 0x110000) (rest : Bytes) :
    run (some ⟨c / 262144, 3, if c / 262144 = 0 then 0x90 else 0x80,
        if c / 262144 = 4 then 0x8F else 0xBF⟩) (UInt8.ofNat (0x80 + c / 4096 % 64) :: rest) =
      run (some ⟨c / 4096, 2, 0x80, 0xBF⟩) rest := by
  apply run_cons_open (by omega)
  rw [step_more (by dsimp only; split <;> omega) (by dsimp only; split <;> omega)
    (by dsimp only; omega)]
  have hb : c / 262144 * 64 + (0x80 + c / 4096 % 64) % 64 = c / 4096 := by omega
  simp only [hb]

theorem run_third_four (rest : Bytes) :
    run (some ⟨c / 4096, 2, 0x80, 0xBF⟩) (UInt8.ofNat (0x80 + c / 64 % 64) :: rest) =
      run (some ⟨c / 64, 1, 0x80, 0xBF⟩) rest := by
  apply run_cons_open (by omega)
  rw [step_more (by dsimp only; omega) (by dsimp only; omega) (by dsimp only; omega)]
  have hb : c / 4096 * 64 + (0x80 + c / 64 % 64) % 64 = c / 64 := by omega
  simp only [hb]

theorem run_last (rest : Bytes) :
    run (some ⟨c / 64, 1, 0x80, 0xBF⟩) (UInt8.ofNat (0x80 + c % 64) :: rest) =
      c :: run none rest := by
  apply run_cons_close (by omega)
  rw [step_last (by dsimp only; omega) (by dsimp only; omega) (by dsimp only; omega)]
  have hb : c / 64 * 64 + (0x80 + c % 64) % 64 = c := by omega
  simp only [hb]

end Lead

/-- A whole character gives itself, whatever follows. -/
theorem run_encodeChar {c : Nat} (hc : Text.isScalar c = true) (rest : Bytes) :
    run none (encodeChar c ++ rest) = c :: run none rest := by
  obtain ⟨hh, hs⟩ := Text.isScalar_iff.mp hc
  unfold encodeChar
  by_cases h1 : c < 0x80
  · rw [if_pos h1]
    have hf : step none c = ([c], none) := first_one h1
    exact run_cons_close (by omega) hf rest
  by_cases h2 : c < 0x800
  · rw [if_neg h1, if_pos h2]
    exact (run_lead_two (by omega) h2 _).trans (run_last rest)
  by_cases h3 : c < 0x10000
  · rw [if_neg h1, if_neg h2, if_pos h3]
    exact (run_lead_three h3 _).trans
      ((run_second_three (by omega) hs _).trans (run_last rest))
  · rw [if_neg h1, if_neg h2, if_neg h3]
    exact (run_lead_four hh _).trans ((run_second_four (by omega) hh _).trans
      ((run_third_four _).trans (run_last rest)))

theorem length_encodeChar_le (c : Nat) : (encodeChar c).length ≤ 4 := by
  unfold encodeChar
  split
  · simp
  · split
    · simp
    · split <;> simp

/-- A part of a character leaves it open. -/
theorem run_take_encodeChar {c j : Nat} (hc : Text.isScalar c = true) (hj : 0 < j)
    (hl : j < (encodeChar c).length) :
    ∃ p, ∀ rest, run none ((encodeChar c).take j ++ rest) = run (some p) rest := by
  obtain ⟨hh, hs⟩ := Text.isScalar_iff.mp hc
  unfold encodeChar at hl ⊢
  by_cases h1 : c < 0x80
  · rw [if_pos h1] at hl
    simp only [List.length_singleton] at hl
    omega
  by_cases h2 : c < 0x800
  · rw [if_neg h1, if_pos h2] at hl ⊢
    simp only [List.length_cons, List.length_nil] at hl
    obtain rfl : j = 1 := by omega
    exact ⟨_, fun rest => run_lead_two (by omega) h2 rest⟩
  by_cases h3 : c < 0x10000
  · rw [if_neg h1, if_neg h2, if_pos h3] at hl ⊢
    simp only [List.length_cons, List.length_nil] at hl
    obtain rfl | rfl : j = 1 ∨ j = 2 := by omega
    · exact ⟨_, fun rest => run_lead_three h3 rest⟩
    · exact ⟨_, fun rest => (run_lead_three h3 _).trans (run_second_three (by omega) hs rest)⟩
  · rw [if_neg h1, if_neg h2, if_neg h3] at hl ⊢
    simp only [List.length_cons, List.length_nil] at hl
    obtain rfl | rfl | rfl : j = 1 ∨ j = 2 ∨ j = 3 := by omega
    · exact ⟨_, fun rest => run_lead_four hh rest⟩
    · exact ⟨_, fun rest => (run_lead_four hh _).trans (run_second_four (by omega) hh rest)⟩
    · exact ⟨_, fun rest => (run_lead_four hh _).trans
        ((run_second_four (by omega) hh _).trans (run_third_four rest))⟩

/-- A character that is cut off at the end is replaced as a whole. -/
theorem decode_take_encodeChar {c j : Nat} (hc : Text.isScalar c = true) (hj : 0 < j)
    (hl : j < (encodeChar c).length) :
    decode ((encodeChar c).take j) = [Text.replacement] := by
  obtain ⟨p, hp⟩ := run_take_encodeChar hc hj hl
  have h := hp []
  rw [List.append_nil] at h
  exact h

/-- No byte of a character other than the zero character is zero. -/
theorem encodeChar_ne_zero {c : Nat} (hc : Text.isScalar c = true) (h0 : c ≠ 0) :
    ∀ b ∈ encodeChar c, b ≠ 0 := by
  obtain ⟨hh, -⟩ := Text.isScalar_iff.mp hc
  have hn : ∀ n, 0 < n → n < 256 → UInt8.ofNat n ≠ 0 := by
    intro n hp hl hz
    have ht := congrArg UInt8.toNat hz
    rw [toNat_ofNat_of_lt hl] at ht
    exact absurd ht (Nat.ne_of_gt hp)
  intro b hb
  unfold encodeChar at hb
  split at hb
  · obtain rfl := List.mem_singleton.mp hb
    exact hn c (by omega) (by omega)
  split at hb
  · simp only [List.mem_cons, List.not_mem_nil, or_false] at hb
    rcases hb with rfl | rfl <;> exact hn _ (by omega) (by omega)
  split at hb
  · simp only [List.mem_cons, List.not_mem_nil, or_false] at hb
    rcases hb with rfl | rfl | rfl <;> exact hn _ (by omega) (by omega)
  · simp only [List.mem_cons, List.not_mem_nil, or_false] at hb
    rcases hb with rfl | rfl | rfl | rfl <;> exact hn _ (by omega) (by omega)

end ByteLayout.Utf8
