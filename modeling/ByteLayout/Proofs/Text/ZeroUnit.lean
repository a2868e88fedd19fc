import ByteLayout.Proofs.Bytes.Patch
import ByteLayout.Proofs.Text.CutUnits
import ByteLayout.Proofs.Text.Decoded

/-! # Reading up to a zero unit

A reader that stops before the first zero unit reads the text before the first zero character,
whatever the bytes are: only a zero unit is read as a zero character, and a character that is open
before one is replaced just as it is at the end.
-/
namespace ByteLayout

/-- A unit is zero when its number is. -/
theorem isZeroUnit_iff_read (order : ByteOrder) (u : Bytes) :
    isZeroUnit u = true ↔ order.read u = 0 := by
  have h : ∀ u : Bytes, littleNat u = 0 ↔ ∀ b ∈ u, b = 0 := by
    intro u
    induction u with
    | nil => simp [littleNat]
    | cons b u ih =>
      have hb : b.toNat = 0 ↔ b = 0 := by rw [← UInt8.toNat_inj]; rfl
      rw [List.forall_mem_cons, ← ih, ← hb, littleNat]
      omega
  rw [ByteOrder.read, h, isZeroUnit, List.all_eq_true]
  cases order with
  | little => simp [ByteOrder.arrange]
  | big => simp [ByteOrder.arrange]

theorem Text.replacement_ne_zero : Text.replacement ≠ 0 := by decide

theorem Text.beforeZero_cons {c : Nat} (h : c ≠ 0) (t : Text) :
    Text.beforeZero (c :: t) = c :: t.beforeZero :=
  List.takeWhile_cons_of_pos (bne_iff_ne.mpr h)

theorem Text.beforeZero_append {s : Text} (h : 0 ∉ s) (t : Text) :
    (s ++ t).beforeZero = s ++ t.beforeZero :=
  List.takeWhile_append_of_pos fun _ hc => bne_iff_ne.mpr fun h0 => h (h0 ▸ hc)

/-- A text stops before its first zero or has none. -/
theorem Text.eq_beforeZero_or (t : Text) :
    t = t.beforeZero ∨ ∃ rest, t = t.beforeZero ++ 0 :: rest := by
  have ht : t.beforeZero ++ t.dropWhile (· != 0) = t := List.takeWhile_append_dropWhile
  cases hd : t.dropWhile (· != 0) with
  | nil =>
    rw [hd, List.append_nil] at ht
    exact .inl ht.symm
  | cons c rest =>
    have hne : t.dropWhile (· != 0) ≠ [] := by
      rw [hd]
      exact List.cons_ne_nil c rest
    have hc := List.head_dropWhile_not (· != 0) hne
    simp only [hd, List.head_cons, bne_eq_false_iff_eq] at hc
    rw [hd, hc] at ht
    exact .inr ⟨rest, ht.symm⟩

/-- Characters of one byte each, of which only a zero byte gives a zero. -/
theorem Text.beforeZero_map {f : UInt8 → Nat} (hf : ∀ b, f b = 0 ↔ b = 0) (raw : Bytes) :
    (raw.takeWhile (· != 0)).map f = Text.beforeZero (raw.map f) := by
  have h : ((· != 0) ∘ f) = fun b : UInt8 => b != 0 := by
    funext b
    rw [Function.comp_apply, Bool.eq_iff_iff, bne_iff_ne, bne_iff_ne]
    exact not_congr (hf b)
  rw [Text.beforeZero, List.takeWhile_map, h]

/-! ## Units of one byte -/

namespace Utf8

structure Pending.IsPositive (p : Pending) : Prop where
  low : 0x80 ≤ p.low
  bits : ∀ b, p.low ≤ b → b ≤ p.high → 0 < p.bits * 64 + b % 64

def Step.IsPositive (s : Step) : Prop := 0 ∉ s.1 ∧ ∀ p ∈ s.2, p.IsPositive

theorem Step.IsPositive.close {c : Nat} (hc : c ≠ 0) : Step.IsPositive ([c], none) :=
  ⟨fun h => hc (List.mem_singleton.mp h).symm, fun _ hp => nomatch hp⟩

theorem Step.IsPositive.open {p : Pending} (hl : 0x80 ≤ p.low)
    (hb : ∀ b, p.low ≤ b → b ≤ p.high → 0 < p.bits * 64 + b % 64) :
    Step.IsPositive ([], some p) :=
  ⟨List.not_mem_nil, fun _ hq => Option.mem_some.mp hq ▸ ⟨hl, hb⟩⟩

/-- The lead bytes with no bits of their own leave only such second bytes as have some. -/
theorem isPositive_first {b : Nat} (h0 : b ≠ 0) : Step.IsPositive (first b) := by
  refine first_cases (fun _ => ?_) (fun hb hb' => ?_) (fun hb hb' => ?_) (fun hb hb' => ?_) ?_
  · exact .close h0
  · exact .open (Nat.le_refl _) fun d hl hh => by dsimp only at hl hh ⊢; omega
  · refine .open (by dsimp only; split <;> omega) fun d hl hh => ?_
    dsimp only at hl hh ⊢
    split at hl <;> split at hh <;> omega
  · refine .open (by dsimp only; split <;> omega) fun d hl hh => ?_
    dsimp only at hl hh ⊢
    split at hl <;> split at hh <;> omega
  · exact .close (by decide)

theorem isPositive_step {state : Option Pending} (hs : ∀ p ∈ state, p.IsPositive) {b : Nat}
    (h0 : b ≠ 0) : Step.IsPositive (step state b) := by
  cases state with
  | none => exact isPositive_first h0
  | some p =>
    obtain ⟨hlow, hbits⟩ := hs p rfl
    by_cases hb : p.low ≤ b ∧ b ≤ p.high
    · have hpos := hbits b hb.1 hb.2
      by_cases ho : p.owed ≤ 1
      · rw [step_last hb.1 hb.2 ho]
        exact .close (Nat.ne_of_gt hpos)
      · rw [step_more hb.1 hb.2 (by omega)]
        exact .open (Nat.le_refl _) fun d _ _ => by dsimp only; omega
    · rw [step, if_neg hb]
      obtain ⟨hout, hnext⟩ := isPositive_first h0
      exact ⟨List.not_mem_cons_of_ne_of_not_mem (by decide) hout, hnext⟩

/-- A zero byte ends what is open. -/
theorem step_zero {state : Option Pending} (hs : ∀ p ∈ state, p.IsPositive) :
    step state 0 = (finish state ++ [0], none) := by
  cases state with
  | none => rfl
  | some p =>
    have hlow := (hs p rfl).low
    have hb : ¬(p.low ≤ 0 ∧ 0 ≤ p.high) := by omega
    rw [step, if_neg hb]
    rfl

theorem zero_notMem_finish (state : Option Pending) : 0 ∉ finish state := by
  cases state with
  | none => exact List.not_mem_nil
  | some p => exact fun h => absurd (List.mem_singleton.mp h) (by decide)

theorem run_takeWhile {state : Option Pending} (hs : ∀ p ∈ state, p.IsPositive)
    (bytes : Bytes) :
    run state (bytes.takeWhile (· != 0)) = (run state bytes).beforeZero := by
  induction bytes generalizing state with
  | nil =>
    have h := Text.beforeZero_append (zero_notMem_finish state) []
    rw [List.append_nil] at h
    exact (h.trans (List.append_nil _)).symm
  | cons b rest ih =>
    rw [List.takeWhile_cons]
    by_cases hb : b = 0
    · subst hb
      have hz := step_zero hs
      have h := Text.beforeZero_append (zero_notMem_finish state) ([0] ++ run none rest)
      rw [run, UInt8.toNat_zero, hz, List.append_assoc, h]
      exact (List.append_nil _).symm
    · have h0 : b.toNat ≠ 0 := fun h => hb (UInt8.toNat_inj.mp h)
      obtain ⟨hout, hnext⟩ := isPositive_step hs h0
      rw [if_pos (bne_iff_ne.mpr hb), run, run, ih hnext, Text.beforeZero_append hout]

end Utf8

/-! ## Wide units -/

namespace Utf16

def cutRow (odd : Bool) (units : List Nat) : List Nat × Bool :=
  (units.takeWhile (· != 0), odd && !units.contains 0)

theorem cutRow_cons {u : Nat} (h0 : u ≠ 0) (odd : Bool) (units : List Nat) :
    cutRow odd (u :: units) = (u :: (cutRow odd units).1, (cutRow odd units).2) := by
  simp [cutRow, h0, Ne.symm h0]

theorem cutRow_zero (odd : Bool) (units : List Nat) : cutRow odd (0 :: units) = ([], false) := by
  simp [cutRow]

theorem readUnits_cutUnits (order : ByteOrder) (raw : Bytes) :
    readUnits order (cutUnits 2 raw) =
      cutRow (readUnits order raw).2 (readUnits order raw).1 := by
  fun_induction readUnits order raw with
  | case1 a b rest units odd hr ih =>
    have h : cutUnits 2 (a :: b :: rest) =
        if isZeroUnit [a, b] then [] else a :: b :: cutUnits 2 rest :=
      cutUnits_append (u := [a, b]) Nat.two_pos rfl
    have hz := isZeroUnit_iff_read order [a, b]
    by_cases h0 : order.read [a, b] = 0
    · rw [h, if_pos (hz.mpr h0), h0, cutRow_zero]
      rfl
    · rw [hr] at ih
      rw [h, if_neg fun hc => h0 (hz.mp hc), cutRow_cons h0, ← ih]
      rfl
  | case2 b =>
    have hl : [b].length < 2 := Nat.one_lt_two
    rw [cutUnits_of_lt hl]
    rfl
  | case3 => rfl

theorem ne_zero_of_isHigh {u : Nat} (hh : isHigh u = true) : u ≠ 0 := by
  rintro rfl
  exact absurd hh (by decide)

theorem ne_zero_of_isLow {u : Nat} (hl : isLow u = true) : u ≠ 0 := by
  rintro rfl
  exact absurd hl (by decide)

def EndsAtZero (odd : Bool) (units : List Nat) : Prop :=
  decodeUnits (cutRow odd units).2 (cutRow odd units).1 = (decodeUnits odd units).beforeZero

theorem EndsAtZero.cons_not_high {u : Nat} {odd : Bool} {units : List Nat}
    (h : EndsAtZero odd units) (hh : ¬isHigh u = true) : EndsAtZero odd (u :: units) := by
  unfold EndsAtZero at h ⊢
  rw [decodeUnits_not_high odd hh]
  by_cases h0 : u = 0
  · subst h0
    rw [cutRow_zero]
    rfl
  · have hc : (if isLow u then Text.replacement else u) ≠ 0 := by
      split
      · exact Text.replacement_ne_zero
      · exact h0
    rw [cutRow_cons h0, decodeUnits_not_high _ hh, h, Text.beforeZero_cons hc]

theorem endsAtZero (odd : Bool) (units : List Nat) : EndsAtZero odd units := by
  fun_induction decodeUnits odd units with
  | case1 h =>
    subst h
    rfl
  | case2 h =>
    have ho : odd = false := eq_false_of_ne_true h
    subst ho
    rfl
  | case3 u hh =>
    unfold EndsAtZero
    rw [cutRow_cons (ne_zero_of_isHigh hh), decodeUnits_high odd hh]
    exact decodeUnits_high _ hh
  | case4 u hh ih => exact ih.cons_not_high hh
  | case5 u v rest hh hl ih =>
    unfold EndsAtZero at ih ⊢
    rw [cutRow_cons (ne_zero_of_isHigh hh), cutRow_cons (ne_zero_of_isLow hl),
      decodeUnits_pair _ hh hl, decodeUnits_pair odd hh hl, ih, Text.beforeZero_cons (by omega)]
  | case6 u v rest hh hl ih =>
    unfold EndsAtZero at ih ⊢
    rw [cutRow_cons (ne_zero_of_isHigh hh), decodeUnits_high_cons odd hh hl,
      Text.beforeZero_cons Text.replacement_ne_zero, ← ih]
    by_cases h0 : v = 0
    · -- the zero unit is not there to be told apart from the end
      subst h0
      rw [cutRow_zero]
      exact decodeUnits_high false hh
    · rw [cutRow_cons h0]
      exact decodeUnits_high_cons _ hh hl _
  | case7 u v rest hh ih => exact ih.cons_not_high hh

theorem decode_cutUnits (order : ByteOrder) (raw : Bytes) :
    decode order (cutUnits 2 raw) = (decode order raw).beforeZero := by
  have h := endsAtZero (readUnits order raw).2 (readUnits order raw).1
  rw [EndsAtZero, ← readUnits_cutUnits] at h
  exact h

end Utf16

theorem Utf32.decode_cutUnits (order : ByteOrder) (raw : Bytes) :
    Utf32.decode order (cutUnits 4 raw) = (Utf32.decode order raw).beforeZero := by
  fun_induction Utf32.decode order raw with
  | case1 a b c d rest u ih =>
    have h : cutUnits 4 (a :: b :: c :: d :: rest) =
        if isZeroUnit [a, b, c, d] then [] else a :: b :: c :: d :: cutUnits 4 rest :=
      cutUnits_append (u := [a, b, c, d]) (by decide) rfl
    have hz := isZeroUnit_iff_read order [a, b, c, d]
    by_cases h0 : u = 0
    · rw [h, if_pos (hz.mpr h0), h0]
      rfl
    · have hc : (if Text.isScalar u then u else Text.replacement) ≠ 0 := by
        split
        · exact h0
        · exact Text.replacement_ne_zero
      rw [h, if_neg fun hc => h0 (hz.mp hc), Text.beforeZero_cons hc, ← ih]
      rfl
  | case2 => rfl
  | case3 raw hcons hnil =>
    have hl : raw.length < 4 := by
      rcases raw with _ | ⟨a, _ | ⟨b, _ | ⟨c, _ | ⟨d, rest⟩⟩⟩⟩
      case cons.cons.cons.cons => exact absurd rfl (hcons a b c d rest)
      all_goals simp
    have hd : decode order raw = [Text.replacement] := by
      rw [decode]
      · exact hcons
      · exact hnil
    rw [cutUnits_of_lt hl, hd]
    rfl

/-! ## Marks -/

namespace Encoding

def readMarks : Encoding → List (Bytes × Encoding)
  | utf8 true => [([0xEF, 0xBB, 0xBF], utf8 false)]
  | utf16 none => [([0xFF, 0xFE], utf16 (some .little)), ([0xFE, 0xFF], utf16 (some .big))]
  | utf32 none =>
    [([0xFF, 0xFE, 0, 0], utf32 (some .little)), ([0, 0, 0xFE, 0xFF], utf32 (some .big))]
  | _ => []

theorem decode_of_no_mark {e : Encoding} {raw : Bytes}
    (h : ∀ mark ∈ e.readMarks, ¬mark.1 <+: raw) : e.decode raw = e.unmarked.decode raw := by
  unfold decode
  split
  all_goals first
    | rfl
    | exact absurd ⟨_, rfl⟩ (h _ List.mem_cons_self)
    | exact absurd ⟨_, rfl⟩ (h _ (List.mem_cons_of_mem _ List.mem_cons_self))

/-- Behind a mark that is looked for, the rest is read in another encoding of units of the same
size. The mark is made of whole units, none of which is zero. -/
structure IsReadMark (e : Encoding) (mark : Bytes) (other : Encoding) : Prop where
  unit_eq : other.unit = e.unit
  unmarked_eq : other.unmarked = other
  decode_append : ∀ rest, e.decode (mark ++ rest) = other.decode rest
  cutUnits_append : ∀ rest, cutUnits e.unit (mark ++ rest) = mark ++ cutUnits e.unit rest

theorem isReadMark {e other : Encoding} {mark : Bytes} (h : (mark, other) ∈ e.readMarks) :
    e.IsReadMark mark other := by
  have hunit : ∀ u : Bytes, u.length = e.unit → isZeroUnit u = false → ∀ rest,
      cutUnits e.unit (u ++ rest) = u ++ cutUnits e.unit rest := by
    intro u hl hz rest
    rw [cutUnits_append e.unit_pos hl, hz]
    rfl
  rcases e with _ | _ | (_ | _) | (_ | _) | (_ | _) <;>
    simp only [readMarks, List.mem_cons, List.not_mem_nil, or_false, Prod.mk.injEq] at h
  · obtain ⟨rfl, rfl⟩ := h
    refine ⟨rfl, rfl, fun _ => rfl, fun rest => ?_⟩
    have h1 := hunit [0xEF] rfl rfl ([0xBB] ++ ([0xBF] ++ rest))
    rwa [hunit [0xBB] rfl rfl, hunit [0xBF] rfl rfl] at h1
  · rcases h with ⟨rfl, rfl⟩ | ⟨rfl, rfl⟩
    · exact ⟨rfl, rfl, fun _ => rfl, hunit _ rfl rfl⟩
    · exact ⟨rfl, rfl, fun _ => rfl, hunit _ rfl rfl⟩
  · rcases h with ⟨rfl, rfl⟩ | ⟨rfl, rfl⟩
    · exact ⟨rfl, rfl, fun _ => rfl, hunit _ rfl rfl⟩
    · exact ⟨rfl, rfl, fun _ => rfl, hunit _ rfl rfl⟩

theorem decode_cutUnits_unmarked (e : Encoding) (raw : Bytes) :
    e.unmarked.decode (cutUnits e.unit raw) = (e.unmarked.decode raw).beforeZero := by
  cases e with
  | ascii =>
    rw [unit, cutUnits_one]
    refine Text.beforeZero_map (fun b => ?_) raw
    have hb : b.toNat = 0 ↔ b = 0 := UInt8.toNat_inj (b := 0)
    split
    · exact hb
    · next hh => exact iff_of_false (by decide) fun h0 => hh (by rw [h0]; decide)
  | latin1 =>
    rw [unit, cutUnits_one]
    exact Text.beforeZero_map (fun b => UInt8.toNat_inj (b := 0)) raw
  | utf8 marked =>
    rw [unit, cutUnits_one]
    exact Utf8.run_takeWhile (fun p hp => absurd hp (Option.not_mem_none p)) raw
  | utf16 order => exact Utf16.decode_cutUnits (order.getD .little) raw
  | utf32 order => exact Utf32.decode_cutUnits (order.getD .little) raw

/-- Stopping before the first zero unit and then reading gives the text before the first zero
character. -/
theorem decode_cutUnits (e : Encoding) (raw : Bytes) :
    e.decode (cutUnits e.unit raw) = (e.decode raw).beforeZero := by
  by_cases h : ∃ mark ∈ e.readMarks, mark.1 <+: raw
  · obtain ⟨⟨mark, other⟩, hm, rest, rfl⟩ := h
    have hmark := isReadMark hm
    have hrest := decode_cutUnits_unmarked other rest
    rw [hmark.unmarked_eq, hmark.unit_eq] at hrest
    rw [hmark.cutUnits_append, hmark.decode_append, hmark.decode_append, hrest]
  · have hno : ∀ mark ∈ e.readMarks, ¬mark.1 <+: raw := fun mark hm hp => h ⟨mark, hm, hp⟩
    have hcut : ∀ mark ∈ e.readMarks, ¬mark.1 <+: cutUnits e.unit raw := fun mark hm hp =>
      hno mark hm (hp.trans (isPrefix_cutUnits e.unit_pos raw))
    rw [decode_of_no_mark hno, decode_of_no_mark hcut, decode_cutUnits_unmarked]

/-- A text that is cut to so many units and filled up with zeros is read before its first zero
unit as the text before its first zero character is when it is cut there. -/
theorem cutUnits_padded {e : Encoding} {t : Text} (ht : e.Covers t) (k : Nat) :
    cutUnits e.unit (padded (e.unit * k : Nat) ((e.mark ++ e.body t).take (e.unit * k))) =
      (e.mark ++ e.body t.beforeZero).take (e.unit * k) := by
  have hk : k ≤ e.unit * k := Nat.le_mul_of_pos_left k e.unit_pos
  have hcut := List.length_take_le (e.unit * k) (e.mark ++ e.body t)
  have hread := fun rest steps (hs : k < steps) => beforeZeroUnit_take ht hs rest
  generalize (e.mark ++ e.body t).take (e.unit * k) = cut at hcut hread ⊢
  have hl : (padded (e.unit * k : Nat) cut).length = e.unit * k := length_padded hcut
  have hd : e.unit ∣ (padded (e.unit * k : Nat) cut).length := by
    rw [hl]
    exact Nat.dvd_mul_right e.unit k
  have hzeros : padded (e.unit * k : Nat) cut ++ (List.replicate e.unit 0 ++ []) =
      cut ++ (List.replicate e.unit 0 ++ List.replicate (e.unit * k - cut.length) 0) := by
    rw [padded_eq, List.append_nil, List.append_assoc, List.replicate_append_replicate,
      List.replicate_append_replicate, Nat.add_comm]
  -- a zero unit behind the slot changes nothing, and a text without one ends there
  rw [← cutUnits_append_zeros e.unit_pos hd [], cutUnits, hzeros]
  apply hread
  have hu := e.unit_pos
  simp only [List.length_append, List.length_replicate]
  omega

end Encoding

end ByteLayout
