import ByteLayout.Proofs.Text.Encoding

/-! # What can be decoded

A decoder gives nothing but characters that can be written in its encoding, the replacement
character included; in ASCII, which lacks that one, it does so only where every byte is valid.
-/
namespace ByteLayout

namespace Utf8

/-- However the open character goes on, it becomes one that can be written: `rest` stands for the
bits of the bytes behind the next one. -/
def Pending.Sound (p : Pending) : Prop :=
  ∀ b rest, p.low ≤ b → b ≤ p.high → rest < Nat.pow 64 (p.owed - 1) →
    Text.isScalar ((p.bits * 64 + b % 64) * Nat.pow 64 (p.owed - 1) + rest) = true

def Step.Sound (s : Step) : Prop :=
  (∀ c ∈ s.1, Text.isScalar c = true) ∧ ∀ p ∈ s.2, p.Sound

theorem isScalar_replacement : Text.isScalar Text.replacement = true := rfl

theorem Step.Sound.close {c : Nat} (hc : Text.isScalar c = true) : Step.Sound ([c], none) :=
  ⟨fun _ hd => List.mem_singleton.mp hd ▸ hc, fun _ hp => nomatch hp⟩

theorem Step.Sound.open {p : Pending} (hp : p.Sound) : Step.Sound ([], some p) :=
  ⟨fun _ hd => absurd hd List.not_mem_nil, fun _ hq => Option.mem_some.mp hq ▸ hp⟩

/-- Each lead byte leaves only such second bytes as lead to a character. -/
theorem sound_first (b : Nat) : Step.Sound (first b) := by
  refine first_cases (fun h => ?_) (fun hb hb' => ?_) (fun hb hb' => ?_) (fun hb hb' => ?_) ?_
  · exact .close (Text.isScalar_iff.mpr (by omega))
  · refine .open fun d rest hl hh hr => Text.isScalar_iff.mpr ?_
    have h64 : Nat.pow 64 (1 - 1) = 1 := rfl
    simp only [h64] at hl hh hr ⊢
    omega
  · refine .open fun d rest hl hh hr => Text.isScalar_iff.mpr ?_
    have h64 : Nat.pow 64 (2 - 1) = 64 := rfl
    simp only [h64] at hl hh hr ⊢
    split at hl <;> split at hh <;> omega
  · refine .open fun d rest hl hh hr => Text.isScalar_iff.mpr ?_
    have h64 : Nat.pow 64 (3 - 1) = 4096 := rfl
    simp only [h64] at hl hh hr ⊢
    split at hl <;> split at hh <;> omega
  · exact .close isScalar_replacement

theorem sound_step {state : Option Pending} (hs : ∀ p ∈ state, p.Sound) (b : Nat) :
    Step.Sound (step state b) := by
  cases state with
  | none => exact sound_first b
  | some p =>
    have hp := hs p rfl
    by_cases hb : p.low ≤ b ∧ b ≤ p.high
    · by_cases ho : p.owed ≤ 1
      · rw [step_last hb.1 hb.2 ho]
        have hz : p.owed - 1 = 0 := by omega
        have hc := hp b 0 hb.1 hb.2 (Nat.pow_pos (by omega))
        rw [hz] at hc
        exact .close (by simpa using hc)
      · obtain ⟨k, hk⟩ : ∃ k, p.owed - 1 = k + 1 := ⟨p.owed - 2, by omega⟩
        rw [step_more hb.1 hb.2 (by omega)]
        refine .open fun d rest hl hh hr => ?_
        dsimp only at hl hh hr ⊢
        rw [hk, Nat.add_sub_cancel] at hr ⊢
        -- the next byte and what is behind it are what stood behind this one
        have hpow : Nat.pow 64 (k + 1) = Nat.pow 64 k * 64 := Nat.pow_succ ..
        have hd : d % 64 * Nat.pow 64 k ≤ 63 * Nat.pow 64 k := Nat.mul_le_mul_right _ (by omega)
        have hc := hp b (d % 64 * Nat.pow 64 k + rest) hb.1 hb.2 (by rw [hk, hpow]; omega)
        rw [hk, hpow] at hc
        rw [← hc]
        congr 1
        rw [Nat.add_mul (_ * 64), Nat.mul_assoc _ 64, Nat.mul_comm 64, Nat.add_assoc]
    · rw [step, if_neg hb]
      obtain ⟨hout, hnext⟩ := sound_first b
      refine ⟨fun c hc => ?_, hnext⟩
      rcases List.mem_cons.mp hc with rfl | hc
      · exact isScalar_replacement
      · exact hout c hc

theorem isScalar_of_mem_run {state : Option Pending} (hs : ∀ p ∈ state, p.Sound) {bytes : Bytes}
    {c : Nat} (hc : c ∈ run state bytes) : Text.isScalar c = true := by
  induction bytes generalizing state with
  | nil =>
    cases state with
    | none => exact absurd hc List.not_mem_nil
    | some p =>
      obtain rfl := List.mem_singleton.mp hc
      exact isScalar_replacement
  | cons b rest ih =>
    obtain ⟨hout, hnext⟩ := sound_step hs b.toNat
    rcases List.mem_append.mp hc with hc | hc
    · exact hout c hc
    · exact ih hnext hc

theorem isScalar_of_mem_decode {bytes : Bytes} {c : Nat} (hc : c ∈ decode bytes) :
    Text.isScalar c = true :=
  isScalar_of_mem_run (fun p hp => absurd hp (Option.not_mem_none p)) hc

end Utf8

namespace Utf16

theorem lt_of_mem_readUnits {order : ByteOrder} {bytes : Bytes} {u : Nat}
    (hu : u ∈ (readUnits order bytes).1) : u < 0x10000 := by
  fun_induction readUnits order bytes with
  | case1 a b rest units odd hr ih =>
    rcases List.mem_cons.mp hu with rfl | hu
    · have hl := littleNat_lt (order.arrange [a, b])
      have h2 : byteSpan (order.arrange [a, b]).length = 0x10000 := by
        rw [order.length_arrange]
        show byteSpan 2 = 0x10000
        decide
      rwa [h2] at hl
    · rw [hr] at ih
      exact ih hu
  | case2 | case3 => exact absurd hu List.not_mem_nil

theorem isScalar_pair {u v : Nat} (hu : isHigh u = true) (hv : isLow v = true) :
    Text.isScalar (0x10000 + (u - 0xD800) * 0x400 + (v - 0xDC00)) = true := by
  simp only [isHigh, isLow, Bool.and_eq_true, decide_eq_true_eq] at hu hv
  exact Text.isScalar_iff.mpr (by omega)

theorem isScalar_single {u : Nat} (hu : u < 0x10000) (hh : ¬isHigh u = true) :
    Text.isScalar (if isLow u then Text.replacement else u) = true := by
  split
  · rfl
  · next hl =>
    simp only [isHigh, isLow, Bool.and_eq_true, decide_eq_true_eq] at hh hl
    exact Text.isScalar_iff.mpr (by omega)

theorem isScalar_of_mem_decodeUnits {odd : Bool} {units : List Nat}
    (hu : ∀ u ∈ units, u < 0x10000) {c : Nat} (hc : c ∈ decodeUnits odd units) :
    Text.isScalar c = true := by
  fun_induction decodeUnits odd units
  case case1 | case3 =>
    obtain rfl := List.mem_singleton.mp hc
    rfl
  case case2 => exact absurd hc List.not_mem_nil
  case case4 u hh ih =>
    rcases List.mem_cons.mp hc with rfl | hc
    · exact isScalar_single (hu u List.mem_cons_self) hh
    · exact ih (fun _ h => absurd h List.not_mem_nil) hc
  case case5 u v rest hh hl ih =>
    rcases List.mem_cons.mp hc with hc | hc
    · rw [hc]
      exact isScalar_pair hh hl
    · exact ih (fun w hw => hu w (List.mem_cons_of_mem _ (List.mem_cons_of_mem _ hw))) hc
  case case6 u v rest hh hl ih =>
    rcases List.mem_cons.mp hc with rfl | hc
    · rfl
    · exact ih (fun w hw => hu w (List.mem_cons_of_mem _ hw)) hc
  case case7 u v rest hh ih =>
    rcases List.mem_cons.mp hc with rfl | hc
    · exact isScalar_single (hu u List.mem_cons_self) hh
    · exact ih (fun w hw => hu w (List.mem_cons_of_mem _ hw)) hc

theorem isScalar_of_mem_decode {order : ByteOrder} {bytes : Bytes} {c : Nat}
    (hc : c ∈ decode order bytes) : Text.isScalar c = true :=
  isScalar_of_mem_decodeUnits (fun _ => lt_of_mem_readUnits) hc

end Utf16

theorem Utf32.isScalar_of_mem_decode {order : ByteOrder} {bytes : Bytes} {c : Nat}
    (hc : c ∈ Utf32.decode order bytes) : Text.isScalar c = true := by
  fun_induction Utf32.decode order bytes
  case case1 x y z w rest u ih =>
    rcases List.mem_cons.mp hc with rfl | hc
    · split
      · assumption
      · rfl
    · exact ih hc
  case case2 => exact absurd hc List.not_mem_nil
  case case3 =>
    obtain rfl := List.mem_singleton.mp hc
    rfl

namespace Encoding

/-- What has been decoded can be written again in every encoding but ASCII. -/
theorem covers_decode {e : Encoding} (he : e ≠ .ascii) (bytes : Bytes) :
    e.Covers (e.decode bytes) := by
  intro c hc
  unfold decode at hc
  split at hc
  case h_1 => exact absurd rfl he
  case h_2 =>
    obtain ⟨b, -, rfl⟩ := List.mem_map.mp hc
    exact decide_eq_true b.toNat_lt
  all_goals first
    | exact Utf8.isScalar_of_mem_decode hc
    | exact Utf16.isScalar_of_mem_decode hc
    | exact Utf32.isScalar_of_mem_decode hc

theorem covers_decode_ascii_iff {bytes : Bytes} :
    ascii.Covers (ascii.decode bytes) ↔ ∀ b ∈ bytes, b.toNat < 0x80 := by
  have hc : ∀ b : UInt8, ascii.covers (if b.toNat < 0x80 then b.toNat else Text.replacement) =
      decide (b.toNat < 0x80) := by
    intro b
    by_cases hb : b.toNat < 0x80
    · rw [if_pos hb]
      rfl
    · rw [if_neg hb, decide_eq_false hb]
      rfl
  simp only [Covers, decode, List.forall_mem_map, hc, decide_eq_true_eq]

end Encoding

end ByteLayout
