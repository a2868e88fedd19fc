import ByteLayout.Proofs.Text.Utf16
import ByteLayout.Proofs.Text.Utf8
import ByteLayout.Text.Encoding

/-! # Writing and reading a text

Behind its mark an encoding writes one character after the other, and reads them back one
by one. What holds of all encodings is said here once for each: what a character gives when
it is read whole, and what it gives when it is cut.
-/
namespace ByteLayout.Encoding

def unmarked : Encoding → Encoding
  | utf8 _ => utf8 false
  | utf16 order => utf16 (some (order.getD .little))
  | utf32 order => utf32 (some (order.getD .little))
  | e => e

def body (e : Encoding) (t : Text) : Bytes := t.flatMap e.encodeChar

def Covers (e : Encoding) (t : Text) : Prop := ∀ c ∈ t, e.covers c = true

theorem encode?_eq_some {e : Encoding} {t : Text} {raw : Bytes} :
    e.encode? t = some raw ↔ e.Covers t ∧ raw = e.mark ++ e.body t := by
  unfold encode? body
  by_cases h : t.all e.covers = true
  · rw [if_pos h, Option.some_inj]
    exact ⟨fun hr => ⟨List.all_eq_true.mp h, hr.symm⟩, fun hr => hr.2.symm⟩
  · rw [if_neg h]
    constructor
    · intro hr
      cases hr
    · intro hr
      exact absurd (List.all_eq_true.mpr hr.1) h

theorem encode?_of_covers {e : Encoding} {t : Text} (h : e.Covers t) :
    e.encode? t = some (e.mark ++ e.body t) := encode?_eq_some.mpr ⟨h, rfl⟩

@[simp] theorem body_nil (e : Encoding) : e.body [] = [] := rfl

@[simp] theorem body_cons (e : Encoding) (c : Nat) (t : Text) :
    e.body (c :: t) = e.encodeChar c ++ e.body t := rfl

theorem body_append (e : Encoding) (s t : Text) : e.body (s ++ t) = e.body s ++ e.body t :=
  List.flatMap_append

theorem Covers.nil (e : Encoding) : e.Covers [] := fun _ h => nomatch h

theorem Covers.of_cons {e : Encoding} {c : Nat} {t : Text} (h : e.Covers (c :: t)) :
    e.covers c = true ∧ e.Covers t :=
  ⟨h c List.mem_cons_self, fun d hd => h d (List.mem_cons_of_mem _ hd)⟩

theorem Covers.cons {e : Encoding} {c : Nat} {t : Text} (hc : e.covers c = true)
    (ht : e.Covers t) : e.Covers (c :: t) := by
  intro d hd
  rcases List.mem_cons.mp hd with rfl | hd
  · exact hc
  · exact ht d hd

theorem Covers.append {e : Encoding} {s t : Text} (hs : e.Covers s) (ht : e.Covers t) :
    e.Covers (s ++ t) := fun c hc => (List.mem_append.mp hc).elim (hs c) (ht c)

theorem Covers.sublist {e : Encoding} {s t : Text} (ht : e.Covers t) (h : s.Sublist t) :
    e.Covers s := fun c hc => ht c (h.subset hc)

theorem isScalar_of_covers {e : Encoding} {c : Nat} (h : e.covers c = true) :
    Text.isScalar c = true := by
  cases e with
  | ascii | latin1 =>
    rw [Text.isScalar_iff]
    have hc := of_decide_eq_true h
    omega
  | utf8 | utf16 | utf32 => exact h

/-- A reader drops the mark. -/
theorem decode_mark_append (e : Encoding) (bytes : Bytes) :
    e.decode (e.mark ++ bytes) = e.unmarked.decode bytes := by
  rcases e with _ | _ | (_ | _) | (_ | _) | (_ | _) <;> rfl

@[simp] theorem decode_nil (e : Encoding) : e.decode [] = [] := by
  rcases e with _ | _ | (_ | _) | (_ | _) | (_ | _) <;> rfl

theorem unit_pos (e : Encoding) : 0 < e.unit := by
  cases e <;> exact Nat.succ_pos _

theorem unit_dvd_length_mark (e : Encoding) : e.unit ∣ e.mark.length := by
  rcases e with _ | _ | (_ | _) | (_ | order) | (_ | order)
  · decide
  · decide
  · decide
  · decide
  · decide
  · exact Nat.dvd_zero 2
  · decide
  · exact Nat.dvd_zero 4

theorem utf32_decode_write (order : ByteOrder) {c : Nat} (hc : Text.isScalar c = true)
    (rest : Bytes) :
    Utf32.decode order (order.write 4 c ++ rest) = c :: Utf32.decode order rest := by
  obtain ⟨x, y, z, w, hw⟩ : ∃ x y z w, order.write 4 c = [x, y, z, w] := by
    cases order <;> exact ⟨_, _, _, _, rfl⟩
  have hr : order.read [x, y, z, w] = c := by
    rw [← hw, ByteOrder.read_write]
    have := (Text.isScalar_iff.mp hc).1
    exact Nat.mod_eq_of_lt (Nat.lt_trans this (by decide))
  rw [hw]
  simp only [List.cons_append, List.nil_append, Utf32.decode, hr, if_pos hc]

/-- A whole character is read as itself, whatever follows. -/
theorem decode_encodeChar {e : Encoding} {c : Nat} (hc : e.covers c = true) (rest : Bytes) :
    e.unmarked.decode (e.encodeChar c ++ rest) = c :: e.unmarked.decode rest := by
  cases e with
  | ascii =>
    have h : c < 0x80 := of_decide_eq_true hc
    have hn := Utf8.toNat_ofNat_of_lt (Nat.lt_trans h (by decide : 0x80 < 256))
    simp only [unmarked, encodeChar, decode, List.cons_append, List.nil_append, List.map_cons, hn,
      if_pos h]
  | latin1 =>
    have hn := Utf8.toNat_ofNat_of_lt (of_decide_eq_true hc : c < 0x100)
    simp only [unmarked, encodeChar, decode, List.cons_append, List.nil_append, List.map_cons, hn]
  | utf8 marked => exact Utf8.run_encodeChar hc rest
  | utf16 order => exact Utf16.decode_encodeChar (order.getD .little) hc rest
  | utf32 order => exact utf32_decode_write (order.getD .little) hc rest

/-- The text behind the mark is read back. -/
theorem decode_body_append {e : Encoding} {t : Text} (ht : e.Covers t) (rest : Bytes) :
    e.unmarked.decode (e.body t ++ rest) = t ++ e.unmarked.decode rest := by
  induction t with
  | nil => rfl
  | cons c t ih =>
    obtain ⟨hc, ht⟩ := ht.of_cons
    rw [body_cons, List.append_assoc, decode_encodeChar hc, ih ht, List.cons_append]

/-- Reading undoes writing. -/
theorem decode_encode? {e : Encoding} {t : Text} {raw : Bytes} (h : e.encode? t = some raw) :
    e.decode raw = t := by
  obtain ⟨ht, rfl⟩ := encode?_eq_some.mp h
  have hb := decode_body_append ht []
  rw [List.append_nil, decode_nil, List.append_nil] at hb
  rw [decode_mark_append, hb]

theorem unit_dvd_length_encodeChar (e : Encoding) (c : Nat) :
    e.unit ∣ (e.encodeChar c).length := by
  cases e with
  | ascii | latin1 | utf8 => exact Nat.one_dvd _
  | utf16 order =>
    rw [encodeChar, Utf16.length_writeUnits]
    exact Nat.dvd_mul_right 2 _
  | utf32 order =>
    rw [encodeChar, ByteOrder.length_write]
    exact Nat.dvd_refl 4

theorem unit_dvd_length_body (e : Encoding) (t : Text) : e.unit ∣ (e.body t).length := by
  induction t with
  | nil => exact Nat.dvd_zero _
  | cons c t ih =>
    rw [body_cons, List.length_append]
    exact Nat.dvd_add (unit_dvd_length_encodeChar e c) ih

/-- A character that takes several units is that of an encoding that has the replacement
character, which takes all but one of them at least. -/
theorem covers_replacement {e : Encoding} {c : Nat} (h : e.unit < (e.encodeChar c).length) :
    e.covers Text.replacement = true ∧
      (e.encodeChar c).length ≤ (e.encodeChar Text.replacement).length + e.unit := by
  cases e with
  | ascii | latin1 => exact absurd h (Nat.lt_irrefl 1)
  | utf8 marked => exact ⟨rfl, Utf8.length_encodeChar_le c⟩
  | utf16 order =>
    refine ⟨rfl, ?_⟩
    rw [encodeChar, encodeChar, Utf16.length_writeUnits, Utf16.length_writeUnits]
    have hr : (Utf16.encodeChar Text.replacement).length = 1 := rfl
    rw [hr, unit]
    rcases Utf16.length_encodeChar c with hl | ⟨hl, -⟩ <;> omega
  | utf32 order =>
    rw [encodeChar, ByteOrder.length_write] at h
    exact absurd h (Nat.lt_irrefl 4)

/-- A character that has been cut between two units is replaced as a whole. -/
theorem decode_take_encodeChar {e : Encoding} {c j : Nat} (hc : e.covers c = true)
    (hu : e.unit ∣ j) (hj : 0 < j) (hl : j < (e.encodeChar c).length) :
    e.unmarked.decode ((e.encodeChar c).take j) = [Text.replacement] := by
  cases e with
  | ascii | latin1 =>
    have h1 : j < 1 := hl
    omega
  | utf8 marked => exact Utf8.decode_take_encodeChar hc hj hl
  | utf16 order =>
    obtain ⟨k, rfl⟩ := hu
    have hw := Utf16.length_writeUnits (order.getD .little) (Utf16.encodeChar c)
    rw [encodeChar] at hl ⊢
    simp only [unit] at hj hl ⊢
    obtain rfl : k = 1 := by
      rcases Utf16.length_encodeChar c with h | ⟨h, -⟩ <;> omega
    exact Utf16.decode_take_encodeChar (order.getD .little) hc hl
  | utf32 order =>
    rw [encodeChar, ByteOrder.length_write] at hl
    exact absurd (Nat.le_of_dvd hj hu) (Nat.not_le_of_lt hl)

/-- The zero character is written as a unit of zeros. -/
theorem encodeChar_zero (e : Encoding) : e.encodeChar 0 = List.replicate e.unit 0 := by
  rcases e with _ | _ | _ | (_ | _ | _) | (_ | _ | _) <;> rfl

theorem covers_zero (e : Encoding) : e.covers 0 = true := by
  cases e <;> rfl

theorem body_zeros (e : Encoding) (k : Nat) :
    e.body (List.replicate k 0) = List.replicate (e.unit * k) 0 := by
  induction k with
  | zero => rfl
  | succ k ih =>
    rw [List.replicate_succ, body_cons, ih, encodeChar_zero, List.replicate_append_replicate,
      Nat.mul_succ, Nat.add_comm]

theorem body_utf16 (order : ByteOrder) (t : Text) :
    (utf16 (some order)).body t = Utf16.writeUnits order (t.flatMap Utf16.encodeChar) :=
  List.flatMap_assoc.symm

end ByteLayout.Encoding
