import ByteLayout.Proofs.Field.Slot
import ByteLayout.Proofs.Field.TakenBack

/-! # Texts that are cut

A text that is too long for its slot is refused by a strict field and cut by another, which keeps
the longest beginning of the text that fits and shows with a replacement where a character was cut
through.
-/
namespace ByteLayout.Field

section Slots
variable {n : Nat} {t : Text} {full : Bytes}

/-- A text that is written anywhere: strict fields refuse what does not fit, others cut it. -/
theorem encode_string_text {shape : TextShape} {e : Encoding}
    (hs : shape.size.asInt? = some (n : Int)) (hk : shape.findEncoding = .ok e)
    (ht : e.encode? t = some full) (buffer : Bytes) (o : Int) (order : ByteOrder) :
    (string shape).encode buffer o (.text t) order =
      if shape.strict = true ∧ n < full.length then
        .error (.unplaced (.textTooLong full.length shape.size))
      else (fill n (full.take n) buffer).map (splice buffer o (o + n)) := by
  have hsize : (string shape).size = .ok shape.size := size_of_asInt? hs
  have hl : (string shape).length = .ok (n : Int) := length_of_asInt? hs
  simp only [encode, hsize, hl, bind, Except.bind, TextShape.encode_text hk _ hs, ht]
  by_cases hlong : shape.strict = true ∧ n < full.length
  · simp only [if_pos hlong]
  · simp only [if_neg hlong]
    cases fill n (full.take n) buffer <;> rfl

theorem encode_cstring_text {shape : TerminatedShape} (hn : shape.HasRoom n)
    (ht : shape.encoding.encode? t = some full) (buffer : Bytes) (o : Int) (order : ByteOrder) :
    (cstring shape).encode buffer o (.text t) order =
      if shape.strict = true ∧ shape.room n < full.length then
        .error (.unplaced (.textTooLong full.length (.int (shape.room n : Nat))))
      else
        let ended := full.take (shape.room n) ++ List.replicate shape.encoding.unit 0
        .ok (splice buffer o (o + ended.length) ended) := by
  have hsize : (cstring shape).size = .ok shape.size := size_of_asInt? hn.size
  simp only [encode, hsize, hn.budget_eq, bind, Except.bind,
    TextShape.encode_text shape.known _ (Value.asInt?_int (shape.room n : Nat)), ht]
  by_cases hlong : shape.strict = true ∧ shape.room n < full.length
  · simp only [if_pos hlong]
  · simp only [if_neg hlong]
    rfl

/-- A text that fills its slot is read as far as the slot goes. -/
theorem decode_encode_string {shape : TextShape} {e : Encoding}
    (hs : shape.size.asInt? = some (n : Int)) (hk : shape.findEncoding = .ok e)
    (hloose : shape.strict = false) (ht : e.encode? t = some full) {buffer : Bytes} {o : Nat}
    (hb : o + n ≤ buffer.length) (order : ByteOrder) :
    ∃ written, (string shape).encode buffer o (.text t) order = .ok written ∧
      (n ≤ full.length → ∀ order', (string shape).decode (.bytes written) o order' =
        pure (.text (e.decode (full.take n)))) := by
  have hfree : ¬(shape.strict = true ∧ n < full.length) := by
    rw [hloose]
    exact fun h => nomatch h.1
  have hl : (padded n (full.take n)).length = n := length_padded (List.length_take_le n full)
  refine ⟨patch buffer o (padded n (full.take n)), ?_, fun hlong order' => ?_⟩
  · rw [encode_string_text hs hk ht, if_neg hfree, fill_of_le (Nat.le_of_add_left_le hb),
      Except.map, splice_eq_patch hb hl]
  · have hwhole : padded n (full.take n) = full.take n :=
      padded_of_length (List.length_take_of_le hlong)
    rw [decode_string hs hk, slot_patch (Nat.le_of_add_right_le hb) hl, hwhole]

/-- What follows the zero unit in the slot is not looked at. -/
theorem decode_encode_cstring_cut {shape : TerminatedShape} (hn : shape.HasRoom n)
    (hloose : shape.strict = false) (ht : shape.encoding.encode? t = some full) {buffer : Bytes}
    {o : Nat} (hb : o + n ≤ buffer.length) (order : ByteOrder) :
    ∃ written, (cstring shape).encode buffer o (.text t) order = .ok written ∧
      (shape.room n ≤ full.length → ∀ order', (cstring shape).decode (.bytes written) o order' =
        pure (.text (shape.encoding.decode (full.take (shape.room n))).beforeZero)) := by
  have hfree : ¬(shape.strict = true ∧ shape.room n < full.length) := by
    rw [hloose]
    exact fun h => nomatch h.1
  have hcut : (full.take (shape.room n)).length ≤ shape.room n := List.length_take_le _ full
  have hroom := hn.room_add_unit_le
  have hended : (full.take (shape.room n) ++ List.replicate shape.encoding.unit 0).length ≤ n := by
    rw [List.length_append, List.length_replicate]
    omega
  refine ⟨patch buffer o (full.take (shape.room n) ++ List.replicate shape.encoding.unit 0), ?_,
    fun hlong order' => ?_⟩
  · rw [encode_cstring_text hn ht, if_neg hfree]
    exact congrArg Except.ok (splice_eq_patch (by omega) rfl)
  · have hu : shape.encoding.unit ∣ (full.take (shape.room n)).length := by
      rw [List.length_take_of_le hlong]
      exact shape.unit_dvd_room n
    rw [decode_cstring_eq_beforeZero hn.size, take_drop_patch (Nat.le_of_add_right_le hb) hended,
      ← Encoding.decode_cutUnits, List.append_assoc,
      cutUnits_append_zeros shape.encoding.unit_pos hu, Encoding.decode_cutUnits]

end Slots

/-! ## UTF-8 -/

structure IsUtf8 (shape : TextShape) (n : Nat) (strict : Bool) : Prop where
  size : shape.size.asInt? = some (n : Int)
  known : shape.findEncoding = .ok (.utf8 false)
  strictness : shape.strict = strict

/-- Two fields of one kind for texts in UTF-8 of `n` bytes, the second one strict: how many bytes
they have for a text, and how much they read of one. -/
inductive Utf8Pair (n : Nat) : Nat → (Text → Text) → Field → Field → Prop
  | string {loose strict : TextShape} (hl : IsUtf8 loose n false) (hs : IsUtf8 strict n true) :
      Utf8Pair n n id (.string loose) (.string strict)
  | cstring {loose strict : TerminatedShape} (hn : 0 < n) (hl : IsUtf8 loose.toTextShape n false)
      (hs : IsUtf8 strict.toTextShape n true) :
      Utf8Pair n (n - 1) Text.beforeZero (.cstring loose) (.cstring strict)

theorem IsUtf8.terminated {shape : TerminatedShape} {n : Nat} {strict : Bool}
    (h : IsUtf8 shape.toTextShape n strict) (hn : 0 < n) :
    shape.encoding = .utf8 false ∧ shape.HasRoom n ∧ shape.room n = n - 1 := by
  have he : shape.encoding = .utf8 false := Except.ok.inj (shape.known.symm.trans h.known)
  have hu : shape.encoding.unit = 1 := by rw [he]; rfl
  refine ⟨he, ⟨h.size, by omega⟩, ?_⟩
  rw [TerminatedShape.room, hu, Nat.one_mul, Nat.div_one]

theorem encode?_utf8 {t : Text} (ht : ∀ c ∈ t, Text.isScalar c = true) :
    (Encoding.utf8 false).encode? t = some ((Encoding.utf8 false).body t) :=
  Encoding.encode?_of_covers ht

section Utf8
variable {n budget : Nat} {ended : Text → Text} {loose strict : Field} {t : Text}

/-- A strict field differs from the other only in what it refuses. -/
theorem Utf8Pair.encode_strict (h : Utf8Pair n budget ended loose strict)
    (ht : ∀ c ∈ t, Text.isScalar c = true) :
    ∃ told : Value, told.asInt? = some (budget : Int) ∧
      ∀ (buffer : Bytes) (o : Int) (order : ByteOrder),
        strict.encode buffer o (.text t) order =
          if budget < ((Encoding.utf8 false).body t).length then
            .error (.layout .pack [] (.textTooLong ((Encoding.utf8 false).body t).length told))
          else loose.encode buffer o (.text t) order := by
  have hfull := encode?_utf8 ht
  cases h with
  | @string loose strict hl hs =>
    refine ⟨strict.size, hs.size, fun buffer o order => ?_⟩
    rw [encode_string_text hs.size hs.known hfull, encode_string_text hl.size hl.known hfull,
      hs.strictness, hl.strictness]
    simp only [true_and, Bool.false_eq_true, false_and, if_false]
    rfl
  | @cstring loose strict hn hl hs =>
    obtain ⟨he, hroom, hr⟩ := hl.terminated hn
    obtain ⟨he', hroom', hr'⟩ := hs.terminated hn
    refine ⟨.int (n - 1 : Nat), Value.asInt?_int _, fun buffer o order => ?_⟩
    rw [encode_cstring_text hroom (he ▸ hfull), encode_cstring_text hroom' (he' ▸ hfull),
      hs.strictness, hl.strictness, hr, hr', he, he']
    simp only [true_and, Bool.false_eq_true, false_and, if_false]
    rfl

/-- The other writes every text, and is read as what has been written of it. -/
theorem Utf8Pair.decode_encode (h : Utf8Pair n budget ended loose strict)
    (ht : ∀ c ∈ t, Text.isScalar c = true) {buffer : Bytes} {o : Nat}
    (hb : o + n ≤ buffer.length) (order : ByteOrder) :
    ∃ written, loose.encode buffer o (.text t) order = .ok written ∧
      (budget ≤ ((Encoding.utf8 false).body t).length → ∀ order',
        loose.decode (.bytes written) o order' = pure (.text (ended
          ((Encoding.utf8 false).decode (((Encoding.utf8 false).body t).take budget))))) := by
  have hfull := encode?_utf8 ht
  cases h with
  | string hl hs => exact decode_encode_string hl.size hl.known hl.strictness hfull hb order
  | cstring hn hl hs =>
    obtain ⟨he, hroom, hr⟩ := hl.terminated hn
    have hcut := decode_encode_cstring_cut hroom hl.strictness (he ▸ hfull) hb order
    rwa [hr, he] at hcut

/-- A text that is too long is refused by a strict field. Another writes the characters that fit
and the bytes of the next one for which there is room, which are read as one replacement. -/
theorem Utf8Pair.encode_longestFit (h : Utf8Pair n budget ended loose strict)
    (ht : ∀ c ∈ t, Text.isScalar c = true) :
    (∃ told : Value, told.asInt? = some (budget : Int) ∧
      ∀ (buffer : Bytes) (o : Int) (order : ByteOrder),
        strict.encode buffer o (.text t) order =
          if budget < ((Encoding.utf8 false).body t).length then
            .error (.layout .pack [] (.textTooLong ((Encoding.utf8 false).body t).length told))
          else loose.encode buffer o (.text t) order) ∧
    ∀ (buffer : Bytes) (o : Nat) (order : ByteOrder), o + n ≤ buffer.length →
      ∃ written, loose.encode buffer o (.text t) order = .ok written ∧
        (budget < ((Encoding.utf8 false).body t).length →
          ∃ q, (Encoding.utf8 false).IsLongestFit budget t q ∧
            ∀ order', loose.decode (.bytes written) o order' = pure (.text (ended
              (q ++ if ((Encoding.utf8 false).body q).length < budget then
                [Text.replacement] else [])))) := by
  refine ⟨h.encode_strict ht, fun buffer o order hb => ?_⟩
  obtain ⟨written, hw, hread⟩ := h.decode_encode ht hb order
  refine ⟨written, hw, fun hlong => ?_⟩
  obtain ⟨q, hq, hcut⟩ := Encoding.exists_longestFit (e := .utf8 false) ht
    (Nat.one_dvd budget) (Nat.le_of_lt hlong)
  refine ⟨q, hq, fun order' => ?_⟩
  rw [hread (Nat.le_of_lt hlong), ← hcut]
  rfl

end Utf8

def motto (strict : Bool) : TerminatedShape where
  size := .int 4
  encodingName := .ofString "utf-8"
  strict := strict
  encoding := .utf8 false
  known := rfl
  roomy n h _ := by
    obtain rfl := Option.some.inj h
    decide

theorem encode_longestFit_motto :
    (∃ written, (cstring (motto false)).encode [9, 9, 9, 9, 9, 9] 1 (.text [0x61, 0x20AC]) .big =
        .ok written ∧ written = [9, 0x61, 0xE2, 0x82, 0, 9] ∧
      ∃ q, (Encoding.utf8 false).IsLongestFit 3 [0x61, 0x20AC] q ∧
        (cstring (motto false)).decode (.bytes written) 1 .big = pure (.text (Text.beforeZero
          (q ++ if ((Encoding.utf8 false).body q).length < 3 then [Text.replacement] else [])))) ∧
    ∃ told, (cstring (motto true)).encode [9, 9, 9, 9, 9, 9] 1 (.text [0x61, 0x20AC]) .big =
      .error (.layout .pack [] (.textTooLong 4 told)) := by
  have hp : Utf8Pair 4 3 Text.beforeZero (cstring (motto false)) (cstring (motto true)) :=
    .cstring (by decide) ⟨rfl, rfl, rfl⟩ ⟨rfl, rfl, rfl⟩
  have ht : ∀ c ∈ ([0x61, 0x20AC] : Text), Text.isScalar c = true := by decide
  obtain ⟨⟨told, -, hstrict⟩, hloose⟩ := hp.encode_longestFit ht
  obtain ⟨written, hw, hread⟩ := hloose [9, 9, 9, 9, 9, 9] 1 .big (by decide)
  obtain ⟨q, hq, hd⟩ := hread (by decide)
  refine ⟨⟨written, hw, ?_, q, hq, hd .big⟩, told, hstrict _ 1 .big⟩
  obtain rfl := Except.ok.inj hw
  rfl

end ByteLayout.Field
