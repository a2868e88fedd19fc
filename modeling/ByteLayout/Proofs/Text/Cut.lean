import ByteLayout.Proofs.Text.Encoding

/-! # Cutting a written text

A text that is cut to a number of whole units is read as some of its characters, with a
replacement for the one that was cut through. What has been read can be written again, is at
least as long as the cut, and is read as itself when it is cut at the same place.
-/
namespace ByteLayout.Encoding

structure IsSettled (e : Encoding) (j : Nat) (w : Text) : Prop where
  covered : e.Covers w
  long : j ≤ (e.mark ++ e.body w).length
  stable : e.decode ((e.mark ++ e.body w).take j) = w

theorem decode_body {e : Encoding} {t : Text} (ht : e.Covers t) :
    e.unmarked.decode (e.body t) = t := by
  have h := decode_body_append ht []
  rwa [List.append_nil, decode_nil, List.append_nil] at h

/-- A text of exactly the length of the cut. -/
theorem IsSettled.of_length {e : Encoding} {t : Text} (ht : e.Covers t) {j : Nat}
    (hj : (e.mark ++ e.body t).length = j) : e.IsSettled j t where
  covered := ht
  long := Nat.le_of_eq hj.symm
  stable := by
    rw [← hj, List.take_length, decode_mark_append, decode_body ht]

/-- The text that is read where a character has been cut through. -/
theorem settled_replacement {e : Encoding} {c j : Nat} (hu : e.unit ∣ j) (hj : 0 < j)
    (hl : j < (e.encodeChar c).length) :
    e.Covers [Text.replacement] ∧ j ≤ (e.body [Text.replacement]).length ∧
      e.unmarked.decode ((e.body [Text.replacement]).take j) = [Text.replacement] := by
  obtain ⟨i, rfl⟩ := hu
  obtain ⟨l, hc⟩ := unit_dvd_length_encodeChar e c
  have hi : 1 ≤ i := Nat.pos_of_mul_pos_left hj
  have hil : i + 1 ≤ l := Nat.lt_of_mul_lt_mul_left (hc ▸ hl)
  have hun : e.unit < (e.encodeChar c).length := by
    rw [hc]
    calc e.unit = e.unit * 1 := (Nat.mul_one _).symm
      _ < e.unit * l := Nat.mul_lt_mul_of_pos_left (by omega) e.unit_pos
  obtain ⟨hr, hlen⟩ := covers_replacement hun
  have hcov : e.Covers [Text.replacement] := Covers.cons hr (Covers.nil e)
  have hb : e.body [Text.replacement] = e.encodeChar Text.replacement := List.append_nil _
  have hle : e.unit * i ≤ (e.encodeChar Text.replacement).length := by
    have hm : e.unit * i + e.unit ≤ (e.encodeChar c).length := by
      rw [hc, ← Nat.mul_succ]
      exact Nat.mul_le_mul_left _ hil
    omega
  refine ⟨hcov, hb ▸ hle, ?_⟩
  rcases Nat.lt_or_eq_of_le hle with h | h
  · rw [hb, decode_take_encodeChar hr (Nat.dvd_mul_right ..) hj h]
  · rw [hb, h, List.take_length, ← hb, decode_body hcov]

/-- The part of a text without its mark, by induction on the characters that the cut leaves. -/
theorem exists_settled_body {e : Encoding} {t : Text} (ht : e.Covers t) {j : Nat}
    (hu : e.unit ∣ j) (hl : j ≤ (e.body t).length) :
    e.Covers (e.unmarked.decode ((e.body t).take j)) ∧
      j ≤ (e.body (e.unmarked.decode ((e.body t).take j))).length ∧
      e.unmarked.decode ((e.body (e.unmarked.decode ((e.body t).take j))).take j) =
        e.unmarked.decode ((e.body t).take j) ∧
      (0 ∉ t → 0 ∉ e.unmarked.decode ((e.body t).take j)) := by
  induction t generalizing j with
  | nil =>
    obtain rfl : j = 0 := Nat.le_zero.mp hl
    simp [Covers]
  | cons c t ih =>
    obtain ⟨hc, ht⟩ := ht.of_cons
    by_cases hj : j < (e.encodeChar c).length
    · rw [body_cons, List.take_append_of_le_length (Nat.le_of_lt hj)]
      rcases Nat.eq_zero_or_pos j with rfl | hp
      · simp [Covers]
      · -- the cut goes through this character, so nothing but a replacement is left
        obtain ⟨hcov, hle, hst⟩ := settled_replacement hu hp hj
        rw [decode_take_encodeChar hc hu hp hj]
        exact ⟨hcov, hle, hst, fun _ => by decide⟩
    · obtain ⟨i, rfl⟩ := Nat.exists_eq_add_of_le (Nat.le_of_not_lt hj)
      have hui : e.unit ∣ i := (Nat.dvd_add_right (unit_dvd_length_encodeChar e c)).mp hu
      have hli : i ≤ (e.body t).length := by
        rw [body_cons, List.length_append] at hl
        omega
      obtain ⟨hcov, hle, hst, h0⟩ := ih ht hui hli
      rw [body_cons, List.take_length_add_append, decode_encodeChar hc]
      refine ⟨hcov.cons hc, ?_, ?_, ?_⟩
      · rw [body_cons, List.length_append]
        omega
      · rw [body_cons, List.take_length_add_append, decode_encodeChar hc, hst]
      · intro hz hm
        rcases List.mem_cons.mp hm with rfl | hm
        · exact hz List.mem_cons_self
        · exact h0 (fun h => hz (List.mem_cons_of_mem _ h)) hm

/-- A mark that is cut through is that of an encoding with units of one byte, and is read as one
character that was cut. -/
theorem decode_take_mark {e : Encoding} {j : Nat} (hu : e.unit ∣ j) (hj : 0 < j)
    (hl : j < e.mark.length) :
    e.decode (e.mark.take j) = [Text.replacement] ∧ e.Covers [Text.replacement] := by
  rcases e with _ | _ | (_ | _) | (_ | _) | (_ | _)
  case utf8.true =>
    have hl' : j < 3 := hl
    obtain rfl | rfl : j = 1 ∨ j = 2 := by omega
    · exact ⟨rfl, Covers.cons rfl (Covers.nil _)⟩
    · exact ⟨rfl, Covers.cons rfl (Covers.nil _)⟩
  case utf16.none => exact absurd (Nat.le_of_dvd hj hu) (Nat.not_le_of_lt hl)
  case utf32.none => exact absurd (Nat.le_of_dvd hj hu) (Nat.not_le_of_lt hl)
  all_goals exact absurd hl (Nat.not_lt_zero j)

/-- What is read of a text that has been cut between two units settles at the cut. -/
theorem isSettled_decode_take {e : Encoding} {t : Text} (ht : e.Covers t) {j : Nat}
    (hu : e.unit ∣ j) (hl : j ≤ (e.mark ++ e.body t).length) :
    e.IsSettled j (e.decode ((e.mark ++ e.body t).take j)) ∧
      (0 ∉ t → 0 ∉ e.decode ((e.mark ++ e.body t).take j)) := by
  by_cases hj : j < e.mark.length
  · have htake : ∀ s : Text, (e.mark ++ e.body s).take j = e.mark.take j := fun s =>
      List.take_append_of_le_length (Nat.le_of_lt hj)
    have hlong : ∀ s : Text, j ≤ (e.mark ++ e.body s).length := fun s => by
      rw [List.length_append]
      omega
    rcases Nat.eq_zero_or_pos j with rfl | hp
    · simp only [List.take_zero, decode_nil]
      exact ⟨⟨Covers.nil e, Nat.zero_le _, decode_nil e⟩, fun _ => List.not_mem_nil⟩
    · obtain ⟨hd, hcov⟩ := decode_take_mark hu hp hj
      rw [htake, hd]
      exact ⟨⟨hcov, hlong _, by rw [htake, hd]⟩, fun _ => by decide⟩
  · obtain ⟨i, rfl⟩ := Nat.exists_eq_add_of_le (Nat.le_of_not_lt hj)
    have hui : e.unit ∣ i := (Nat.dvd_add_right (unit_dvd_length_mark e)).mp hu
    have hli : i ≤ (e.body t).length := by
      rw [List.length_append] at hl
      omega
    obtain ⟨hcov, hle, hst, h0⟩ := exists_settled_body ht hui hli
    simp only [List.take_length_add_append, decode_mark_append]
    refine ⟨⟨hcov, ?_, ?_⟩, h0⟩
    · rw [List.length_append]
      omega
    · rw [List.take_length_add_append, decode_mark_append, hst]

/-! ## The longest part that fits -/

structure IsLongestFit (e : Encoding) (budget : Nat) (t q : Text) : Prop where
  initial : q <+: t
  fits : (e.body q).length ≤ budget
  longest : ∀ p, p <+: t → (e.body p).length ≤ budget → p <+: q

theorem IsLongestFit.nil {e : Encoding} {c j : Nat} (hj : j < (e.encodeChar c).length) (t : Text) :
    e.IsLongestFit j (c :: t) [] where
  initial := List.nil_prefix
  fits := Nat.zero_le j
  longest p hp hl := by
    cases p with
    | nil => exact List.nil_prefix
    | cons d p =>
      obtain ⟨rfl, -⟩ := List.cons_prefix_cons.mp hp
      rw [body_cons, List.length_append] at hl
      omega

theorem IsLongestFit.cons {e : Encoding} {j : Nat} {t q : Text} (h : e.IsLongestFit j t q)
    (c : Nat) : e.IsLongestFit ((e.encodeChar c).length + j) (c :: t) (c :: q) where
  initial := List.cons_prefix_cons.mpr ⟨rfl, h.initial⟩
  fits := by
    rw [body_cons, List.length_append]
    exact Nat.add_le_add_left h.fits _
  longest p hp hl := by
    cases p with
    | nil => exact List.nil_prefix
    | cons d p =>
      obtain ⟨rfl, hpt⟩ := List.cons_prefix_cons.mp hp
      rw [body_cons, List.length_append] at hl
      exact List.cons_prefix_cons.mpr ⟨rfl, h.longest p hpt (Nat.le_of_add_le_add_left hl)⟩

/-- A cut between two units leaves the characters that fit, and a replacement where it goes
through the next one. -/
theorem exists_longestFit {e : Encoding} {t : Text} (ht : e.Covers t) {j : Nat} (hu : e.unit ∣ j)
    (hl : j ≤ (e.body t).length) :
    ∃ q, e.IsLongestFit j t q ∧ e.unmarked.decode ((e.body t).take j) =
      q ++ if (e.body q).length < j then [Text.replacement] else [] := by
  induction t generalizing j with
  | nil =>
    obtain rfl : j = 0 := Nat.le_zero.mp hl
    exact ⟨[], ⟨List.nil_prefix, Nat.le_refl 0, fun p hp _ => hp⟩, decode_nil _⟩
  | cons c t ih =>
    obtain ⟨hc, ht⟩ := ht.of_cons
    by_cases hj : j < (e.encodeChar c).length
    · refine ⟨[], .nil hj t, ?_⟩
      rw [body_cons, List.take_append_of_le_length (Nat.le_of_lt hj)]
      rcases Nat.eq_zero_or_pos j with rfl | hp
      · exact decode_nil _
      · have hcut : (e.body []).length < j := hp
        rw [decode_take_encodeChar hc hu hp hj, if_pos hcut]
        rfl
    · obtain ⟨i, rfl⟩ := Nat.exists_eq_add_of_le (Nat.le_of_not_lt hj)
      have hui : e.unit ∣ i := (Nat.dvd_add_right (unit_dvd_length_encodeChar e c)).mp hu
      have hli : i ≤ (e.body t).length := by
        rw [body_cons, List.length_append] at hl
        exact Nat.le_of_add_le_add_left hl
      obtain ⟨q, hq, hd⟩ := ih ht hui hli
      refine ⟨c :: q, hq.cons c, ?_⟩
      rw [body_cons, List.take_length_add_append, decode_encodeChar hc, hd, body_cons,
        List.length_append]
      simp only [Nat.add_lt_add_iff_left]
      rfl

end ByteLayout.Encoding
