import ByteLayout.Proofs.Field.Carries
import ByteLayout.Proofs.Text.Cut
import ByteLayout.Proofs.Text.Units
import Mathlib.Data.List.TakeWhile

/-! # Texts put through a slot

A text that fits is read back, up to its first zero if it is terminated. One that is cut is read
as what is left of it, and that settles: it is written, cut and read as itself.
-/
namespace ByteLayout.Field

section Texts
variable {shape : TextShape} {encoding : Encoding} {n : Nat} {order : ByteOrder}

theorem read_string (hk : shape.findEncoding = .ok encoding) (slot : Bytes) :
    ((string shape).read order slot).result = .ok (.text (encoding.decode slot)) := by
  have hd : shape.decode slot = .ok (encoding.decode slot) := by
    unfold TextShape.decode
    rw [hk]
    rfl
  simp only [read, hd]
  rfl

theorem carries_string (hs : shape.size.asInt? = some (n : Int))
    (hk : shape.findEncoding = .ok encoding) {t : Text} (ht : encoding.IsSettled n t)
    (hf : shape.strict = true → (encoding.mark ++ encoding.body t).length = n) :
    (string shape).Carries n order (.text t) (.text t) := by
  have hl : ((encoding.mark ++ encoding.body t).take n).length = n := by
    rw [List.length_take, Nat.min_eq_left ht.long]
  refine ⟨_, (write_string_eq_ok hs).mpr ⟨t, encoding, _, rfl, hk,
    Encoding.encode?_of_covers ht.covered, fun h => Nat.le_of_eq (hf h), rfl⟩, ?_⟩
  rw [padded_of_length hl, padded_of_length hl, read_string hk, ht.stable]

/-- Every byte is a character of its own. -/
theorem encode?_latin1 (slot : Bytes) :
    Encoding.latin1.encode? (Encoding.latin1.decode slot) = some slot := by
  have hc : Encoding.latin1.Covers (slot.map UInt8.toNat) := by
    intro c hc
    obtain ⟨b, -, rfl⟩ := List.mem_map.mp hc
    exact decide_eq_true b.toNat_lt
  have hb : Encoding.latin1.body (slot.map UInt8.toNat) = slot := by
    induction slot with
    | nil => rfl
    | cons b rest ih =>
      rw [List.map_cons, Encoding.body_cons, ih (hc.of_cons).2]
      exact congrArg (· :: rest) UInt8.ofNat_toNat
  rw [Encoding.decode, Encoding.encode?_of_covers hc, hb]
  rfl

theorem lossless_latin1 (hs : shape.size.asInt? = some (n : Int))
    (hk : shape.findEncoding = .ok .latin1) : (string shape).Lossless n order := by
  intro slot hl _
  refine ⟨_, read_string hk slot, (write_string_eq_ok hs).mpr
    ⟨_, .latin1, slot, rfl, hk, encode?_latin1 slot, fun _ => Nat.le_of_eq hl, ?_⟩⟩
  rw [List.take_of_length_le (Nat.le_of_eq hl), padded_of_length hl]

/-- Zeros behind a text are zero characters when they make whole units. -/
theorem exists_body_zeros {t : Text} (ht : encoding.Covers t) (hu : encoding.unit ∣ n)
    (hl : (encoding.mark ++ encoding.body t).length ≤ n) :
    ∃ s, encoding.Covers s ∧
      padded n (encoding.mark ++ encoding.body t) = encoding.mark ++ encoding.body s ∧
      (encoding.mark ++ encoding.body s).length = n := by
  obtain ⟨k, hk⟩ : encoding.unit ∣ n - (encoding.mark ++ encoding.body t).length := by
    refine Nat.dvd_sub hu ?_
    rw [List.length_append]
    exact Nat.dvd_add encoding.unit_dvd_length_mark (encoding.unit_dvd_length_body t)
  have hp : padded n (encoding.mark ++ encoding.body t) =
      encoding.mark ++ encoding.body (t ++ List.replicate k 0) := by
    rw [padded_eq, hk, Encoding.body_append, Encoding.body_zeros, List.append_assoc]
  refine ⟨t ++ List.replicate k 0, ?_, hp, ?_⟩
  · refine ht.append fun c hc => ?_
    rw [List.eq_of_mem_replicate hc]
    exact encoding.covers_zero
  · rw [← hp, length_padded hl]

/-- What is in the slot of a written text is the beginning of a text that is at least as long as
the slot, and no longer if the field is strict. -/
theorem exists_text_of_slot {t : Text} (ht : encoding.Covers t) (hu : encoding.unit ∣ n)
    (hf : shape.strict = true → (encoding.mark ++ encoding.body t).length ≤ n) :
    ∃ s, encoding.Covers s ∧
      padded n ((encoding.mark ++ encoding.body t).take n) =
        (encoding.mark ++ encoding.body s).take n ∧
      n ≤ (encoding.mark ++ encoding.body s).length ∧
      (shape.strict = true → (encoding.mark ++ encoding.body s).length = n) := by
  rcases Nat.le_total (encoding.mark ++ encoding.body t).length n with hle | hle
  · obtain ⟨s, hcov, hp, hls⟩ := exists_body_zeros ht hu hle
    refine ⟨s, hcov, ?_, Nat.le_of_eq hls.symm, fun _ => hls⟩
    rw [List.take_of_length_le hle, hp, List.take_of_length_le (Nat.le_of_eq hls)]
  · have hlt : ((encoding.mark ++ encoding.body t).take n).length = n := by
      rw [List.length_take, Nat.min_eq_left hle]
    exact ⟨t, ht, padded_of_length hlt, hle, fun hst => Nat.le_antisymm (hf hst) hle⟩

/-- A text that was cut or filled up settles: cut as the text that is read of the cut, filled up
as itself with zero characters. -/
theorem exists_carries_string (hs : shape.size.asInt? = some (n : Int))
    (hk : shape.findEncoding = .ok encoding) (hu : encoding.unit ∣ n) {v : Value} {raw : Bytes}
    (h : (string shape).write n v order = .ok raw) :
    ∃ w, (string shape).Carries n order v w ∧ (string shape).Carries n order w w := by
  obtain ⟨t, e, full, rfl, hk', hr, hf, rfl⟩ := (write_string_eq_ok hs).mp h
  obtain rfl : e = encoding := Except.ok.inj (hk'.symm.trans hk)
  obtain ⟨ht, rfl⟩ := Encoding.encode?_eq_some.mp hr
  have hlen : ((e.mark ++ e.body t).take n).length ≤ n := List.length_take_le n _
  obtain ⟨s, hcov, hslot, hlong, hstrict⟩ := exists_text_of_slot ht hu hf
  have hcarries : ∀ w, e.decode ((e.mark ++ e.body s).take n) = w →
      (string shape).Carries n order (.text t) (.text w) := by
    rintro w rfl
    refine ⟨_, h, ?_⟩
    rw [padded_of_length (length_padded hlen), hslot, read_string hk]
  by_cases hl : (e.mark ++ e.body s).length = n
  · have hset := Encoding.IsSettled.of_length hcov hl
    exact ⟨.text s, hcarries s hset.stable, carries_string hs hk hset fun _ => hl⟩
  · obtain ⟨hset, -⟩ := Encoding.isSettled_decode_take hcov hu hlong
    exact ⟨_, hcarries _ rfl, carries_string hs hk hset fun hst => absurd (hstrict hst) hl⟩

end Texts

/-! ## Terminated texts -/

section Terminated
variable {shape : TerminatedShape} {n : Nat} {order : ByteOrder}

theorem zero_notMem_beforeZero (t : Text) : 0 ∉ t.beforeZero := by
  intro h
  have := List.mem_takeWhile_imp h
  simp at this

theorem beforeZero_of_notMem {t : Text} (h : 0 ∉ t) : t.beforeZero = t := by
  refine List.takeWhile_eq_self_iff.mpr fun c hc => ?_
  rw [bne_iff_ne]
  rintro rfl
  exact h hc

theorem length_body_beforeZero_le (e : Encoding) (t : Text) :
    (e.body t.beforeZero).length ≤ (e.body t).length := by
  have ht : t.beforeZero ++ t.dropWhile (· != 0) = t := List.takeWhile_append_dropWhile
  have hb := congrArg List.length (e.body_append t.beforeZero (t.dropWhile (· != 0)))
  rw [ht, List.length_append] at hb
  omega

/-- What is read of a slot up to the first zero unit, whatever follows the text. -/
theorem beforeZeroUnit_slot (hn : shape.HasRoom n) {t : Text} (ht : shape.encoding.Covers t)
    (rest : Bytes) :
    beforeZeroUnit shape.encoding.unit n
        ((shape.encoding.mark ++ shape.encoding.body t).take (shape.room n) ++
          (List.replicate shape.encoding.unit 0 ++ rest)) =
      (shape.encoding.mark ++ shape.encoding.body t.beforeZero).take (shape.room n) := by
  have hk : (n - shape.encoding.unit) / shape.encoding.unit < n := by
    have hle := hn.room_add_unit_le
    have hm := Nat.le_mul_of_pos_left ((n - shape.encoding.unit) / shape.encoding.unit)
      shape.encoding.unit_pos
    have hpos := shape.encoding.unit_pos
    unfold TerminatedShape.room at hle
    omega
  exact Encoding.beforeZeroUnit_take ht hk rest

/-- A text that fits, or that may be cut, comes out as what is read of its part before the first
zero, cut to what room there is. -/
theorem carries_cstring (order : ByteOrder) (hn : (cstring shape).slotSize? = some n) {t : Text}
    {raw : Bytes} (hr : shape.encoding.encode? t = some raw)
    (hf : shape.strict = true → raw.length ≤ shape.room n) :
    (cstring shape).Carries n order (.text t)
      (.text (shape.encoding.decode ((shape.encoding.mark ++ shape.encoding.body t.beforeZero).take
        (shape.room n)))) := by
  have hw : (cstring shape).write n (.text t) order =
      .ok (raw.take (shape.room n) ++ List.replicate shape.encoding.unit 0) :=
    (write_cstring_eq_ok (TerminatedShape.hasRoom hn)).mpr
      ⟨t, shape.encoding, raw, rfl, shape.known, hr, hf, rfl⟩
  refine ⟨_, hw, ?_⟩
  have hlen := length_write (.cstring shape) hn hw
  obtain ⟨ht, rfl⟩ := Encoding.encode?_eq_some.mp hr
  simp only [read, length_padded hlen]
  rw [padded_eq, List.append_assoc, beforeZeroUnit_slot (TerminatedShape.hasRoom hn) ht]
  rfl

/-- A terminated text settles as its part before the first zero, or as what is read of that part
when it is cut. -/
theorem exists_carries_cstring (hn : (cstring shape).slotSize? = some n) {v : Value}
    {raw : Bytes} (h : (cstring shape).write n v order = .ok raw) :
    ∃ w, (cstring shape).Carries n order v w ∧ (cstring shape).Carries n order w w := by
  obtain ⟨t, e, full, rfl, hk, hr, hf, -⟩ :=
    (write_cstring_eq_ok (TerminatedShape.hasRoom hn)).mp h
  obtain rfl : e = shape.encoding := Except.ok.inj (hk.symm.trans shape.known)
  have hfirst := carries_cstring order hn hr hf
  obtain ⟨ht, rfl⟩ := Encoding.encode?_eq_some.mp hr
  have hcov : shape.encoding.Covers t.beforeZero := ht.sublist (List.takeWhile_sublist _)
  have h0 := zero_notMem_beforeZero t
  by_cases hl : (shape.encoding.mark ++ shape.encoding.body t.beforeZero).length ≤ shape.room n
  · have hself : shape.encoding.decode ((shape.encoding.mark ++
        shape.encoding.body t.beforeZero).take (shape.room n)) = t.beforeZero := by
      rw [List.take_of_length_le hl]
      exact Encoding.decode_encode? (Encoding.encode?_of_covers hcov)
    rw [hself] at hfirst
    have hsecond := carries_cstring order hn (Encoding.encode?_of_covers hcov) fun _ => hl
    rw [beforeZero_of_notMem h0, hself] at hsecond
    exact ⟨_, hfirst, hsecond⟩
  · -- a strict field has taken all of the text, and so has room for its part before the zero
    have hfree : shape.strict ≠ true := by
      intro hst
      have hlt := hf hst
      have hbe := length_body_beforeZero_le shape.encoding t
      rw [List.length_append] at hlt hl
      omega
    obtain ⟨hset, hz⟩ := Encoding.isSettled_decode_take hcov (shape.unit_dvd_room n)
      (Nat.le_of_not_le hl)
    have hsecond := carries_cstring order hn (Encoding.encode?_of_covers hset.covered) fun hst =>
      absurd hst hfree
    rw [beforeZero_of_notMem (hz h0), hset.stable] at hsecond
    exact ⟨_, hfirst, hsecond⟩

end Terminated

end ByteLayout.Field
