import ByteLayout.Field.Decode
import ByteLayout.Proofs.Text.Encoding

/-! # The units of a text

A written text is a row of units, of which only the zero character gives one that is zero. A
reader that stops before the first zero unit therefore stops before the first zero character
of what was written, also where the row has been cut between two units.
-/
namespace ByteLayout

def isZeroUnit (u : Bytes) : Bool := u.all (· == 0)

/-- A row of whole units that a zero unit follows is read up to its own first zero unit. -/
theorem beforeZeroUnit_flatten {unit : Nat} (us : List Bytes)
    (hus : ∀ u ∈ us, u.length = unit) (rest : Bytes) {steps : Nat} (hs : us.length < steps) :
    beforeZeroUnit unit steps (us.flatten ++ (List.replicate unit 0 ++ rest)) =
      (us.takeWhile fun u => !isZeroUnit u).flatten := by
  induction us generalizing steps with
  | nil =>
    obtain ⟨s, rfl⟩ := Nat.exists_eq_succ_of_ne_zero (Nat.ne_of_gt hs)
    have ht : (List.replicate unit (0 : UInt8) ++ rest).take unit = List.replicate unit 0 :=
      List.take_left' List.length_replicate
    simp [beforeZeroUnit, ht]
  | cons u us ih =>
    obtain ⟨s, rfl⟩ := Nat.exists_eq_succ_of_ne_zero (Nat.ne_of_gt (Nat.zero_lt_of_lt hs))
    have hl : u.length = unit := hus u List.mem_cons_self
    have ht : (u ++ (us.flatten ++ (List.replicate unit 0 ++ rest))).take unit = u :=
      List.take_left' hl
    have hd : (u ++ (us.flatten ++ (List.replicate unit 0 ++ rest))).drop unit =
        us.flatten ++ (List.replicate unit 0 ++ rest) := List.drop_left' hl
    have hr := ih (fun v hv => hus v (List.mem_cons_of_mem _ hv)) (Nat.lt_of_succ_lt_succ hs)
    rw [List.flatten_cons, List.append_assoc, beforeZeroUnit]
    simp only [ht, hd, hr, hl, Nat.lt_irrefl, if_false, List.takeWhile_cons]
    cases hz : isZeroUnit u with
    | true =>
      have hz' : u.all (· == 0) = true := hz
      simp [hz']
    | false =>
      have hz' : u.all (· == 0) = false := hz
      simp [hz']

/-- The first units of a row of whole units. -/
theorem take_flatten_units {unit : Nat} (us : List Bytes) (hus : ∀ u ∈ us, u.length = unit)
    (k : Nat) : us.flatten.take (unit * k) = (us.take k).flatten := by
  induction us generalizing k with
  | nil => simp
  | cons u us ih =>
    cases k with
    | zero => simp
    | succ k =>
      have hl : u.length = unit := hus u List.mem_cons_self
      have hr := ih (fun v hv => hus v (List.mem_cons_of_mem _ hv)) k
      have hk : unit * (k + 1) = u.length + unit * k := by rw [hl, Nat.mul_succ, Nat.add_comm]
      rw [List.flatten_cons, hk, List.take_length_add_append, hr, List.take_succ_cons,
        List.flatten_cons]

namespace Encoding

def units (e : Encoding) (c : Nat) : List Bytes :=
  match e with
  | ascii | latin1 => [[UInt8.ofNat c]]
  | utf8 _ => (Utf8.encodeChar c).map fun b => [b]
  | utf16 order => (Utf16.encodeChar c).map ((order.getD .little).write 2)
  | utf32 order => [(order.getD .little).write 4 c]

def markUnits : Encoding → List Bytes
  | utf8 true => [[0xEF], [0xBB], [0xBF]]
  | utf16 none => [[0xFF, 0xFE]]
  | utf32 none => [[0xFF, 0xFE, 0, 0]]
  | _ => []

def unitsOf (e : Encoding) (t : Text) : List Bytes := e.markUnits ++ t.flatMap e.units

theorem flatten_units (e : Encoding) (c : Nat) : (e.units c).flatten = e.encodeChar c := by
  cases e with
  | ascii | latin1 => rfl
  | utf8 marked =>
    rw [units, ← List.flatMap_def]
    exact List.flatMap_singleton' _
  | utf16 order => exact (List.flatMap_def ..).symm
  | utf32 order => exact List.append_nil _

theorem flatten_markUnits (e : Encoding) : e.markUnits.flatten = e.mark := by
  rcases e with _ | _ | (_ | _) | (_ | _) | (_ | _) <;> rfl

theorem flatten_unitsOf (e : Encoding) (t : Text) : (e.unitsOf t).flatten = e.mark ++ e.body t := by
  rw [unitsOf, List.flatten_append, flatten_markUnits]
  congr 1
  induction t with
  | nil => rfl
  | cons c t ih => rw [List.flatMap_cons, List.flatten_append, flatten_units, ih, body_cons]

theorem length_of_mem_units {e : Encoding} {c : Nat} {u : Bytes} (h : u ∈ e.units c) :
    u.length = e.unit := by
  cases e with
  | ascii | latin1 =>
    obtain rfl := List.mem_singleton.mp h
    rfl
  | utf8 marked =>
    obtain ⟨b, -, rfl⟩ := List.mem_map.mp h
    rfl
  | utf16 order =>
    obtain ⟨v, -, rfl⟩ := List.mem_map.mp h
    exact ByteOrder.length_write ..
  | utf32 order =>
    obtain rfl := List.mem_singleton.mp h
    exact ByteOrder.length_write ..

theorem length_of_mem_markUnits {e : Encoding} {u : Bytes} (h : u ∈ e.markUnits) :
    u.length = e.unit ∧ isZeroUnit u = false := by
  rcases e with _ | _ | (_ | _) | (_ | _) | (_ | _) <;>
    simp only [markUnits, List.mem_cons, List.not_mem_nil, or_false] at h
  · rcases h with rfl | rfl | rfl <;> exact ⟨rfl, by decide⟩
  · rcases h with rfl
    exact ⟨rfl, by decide⟩
  · rcases h with rfl
    exact ⟨rfl, by decide⟩

theorem length_of_mem_unitsOf {e : Encoding} {t : Text} {u : Bytes} (h : u ∈ e.unitsOf t) :
    u.length = e.unit := by
  rcases List.mem_append.mp h with h | h
  · exact (length_of_mem_markUnits h).1
  · obtain ⟨c, -, hc⟩ := List.mem_flatMap.mp h
    exact length_of_mem_units hc

/-- A number that fits into a unit is written as zeros only if it is zero. -/
theorem eq_zero_of_isZeroUnit_write {order : ByteOrder} {w n : Nat} (hn : n < byteSpan w)
    (hz : isZeroUnit (order.write w n) = true) : n = 0 := by
  have hb : ∀ b ∈ littleBytes w n, b = 0 := by
    intro b hb
    have hm : b ∈ order.write w n := by
      cases order
      · exact hb
      · exact List.mem_reverse.mpr hb
    exact eq_of_beq (List.all_eq_true.mp hz b hm)
  have hl : littleBytes w n = List.replicate w 0 :=
    List.eq_replicate_iff.mpr ⟨length_littleBytes w n, hb⟩
  have h0 : littleNat (List.replicate w 0) = 0 := by
    clear hn hz hb hl
    induction w with
    | zero => rfl
    | succ w ih => rw [List.replicate_succ, littleNat, ih]; rfl
  have hr := littleNat_littleBytes w n
  rw [hl, h0, Nat.mod_eq_of_lt hn] at hr
  exact hr.symm

/-- Only the zero character has a unit of zeros. -/
theorem isZeroUnit_of_mem_units {e : Encoding} {c : Nat} (hc : e.covers c = true) (h0 : c ≠ 0)
    {u : Bytes} (hu : u ∈ e.units c) : isZeroUnit u = false := by
  cases e with
  | ascii | latin1 =>
    obtain rfl := List.mem_singleton.mp hu
    have hn := Utf8.encodeChar_ne_zero (isScalar_of_covers hc) h0
    have hc' := of_decide_eq_true hc
    have ht := Utf8.toNat_ofNat_of_lt (n := c) (by omega)
    have hb : (UInt8.ofNat c == 0) = false := by
      rw [beq_eq_false_iff_ne]
      intro hz
      rw [hz] at ht
      exact h0 ht.symm
    simp [isZeroUnit, hb]
  | utf8 marked =>
    obtain ⟨b, hb, rfl⟩ := List.mem_map.mp hu
    have hn := Utf8.encodeChar_ne_zero hc h0 b hb
    simpa [isZeroUnit] using hn
  | utf16 order =>
    obtain ⟨v, hv, rfl⟩ := List.mem_map.mp hu
    rw [← Bool.not_eq_true]
    intro hz
    have hl : v < byteSpan 2 := Utf16.lt_of_mem_encodeChar hc hv
    exact Utf16.ne_zero_of_mem_encodeChar h0 hv (eq_zero_of_isZeroUnit_write hl hz)
  | utf32 order =>
    obtain rfl := List.mem_singleton.mp hu
    rw [← Bool.not_eq_true]
    intro hz
    have hl : c < byteSpan 4 := Nat.lt_trans (Text.isScalar_iff.mp hc).1 (by decide)
    exact h0 (eq_zero_of_isZeroUnit_write hl hz)

theorem units_zero (e : Encoding) : e.units 0 = [List.replicate e.unit 0] := by
  rcases e with _ | _ | _ | (_ | _ | _) | (_ | _ | _) <;> rfl

theorem takeWhile_flatMap_units {e : Encoding} {t : Text} (ht : e.Covers t) :
    (t.flatMap e.units).takeWhile (fun u => !isZeroUnit u) = t.beforeZero.flatMap e.units := by
  induction t with
  | nil => rfl
  | cons c t ih =>
    obtain ⟨hc, ht⟩ := ht.of_cons
    rw [List.flatMap_cons, Text.beforeZero, List.takeWhile_cons]
    by_cases h0 : c = 0
    · subst h0
      have hz : isZeroUnit (List.replicate e.unit 0) = true := by simp [isZeroUnit]
      simp [units_zero, hz]
    · have hn : ∀ u ∈ e.units c, (!isZeroUnit u) = true := by
        intro u hu
        rw [isZeroUnit_of_mem_units hc h0 hu]
        rfl
      have hb : (c != 0) = true := by simpa using h0
      rw [List.takeWhile_append_of_pos hn, ih ht, if_pos hb, List.flatMap_cons]
      rfl

theorem takeWhile_unitsOf {e : Encoding} {t : Text} (ht : e.Covers t) :
    (e.unitsOf t).takeWhile (fun u => !isZeroUnit u) = e.unitsOf t.beforeZero := by
  have hm : ∀ u ∈ e.markUnits, (!isZeroUnit u) = true := by
    intro u hu
    rw [(length_of_mem_markUnits hu).2]
    rfl
  rw [unitsOf, List.takeWhile_append_of_pos hm, takeWhile_flatMap_units ht, unitsOf]

/-- What a reader of whole units finds before the first zero unit, when a text has been written
and cut between two units. -/
theorem beforeZeroUnit_take {e : Encoding} {t : Text} (ht : e.Covers t) {k steps : Nat}
    (hs : k < steps) (rest : Bytes) :
    beforeZeroUnit e.unit steps
        ((e.mark ++ e.body t).take (e.unit * k) ++ (List.replicate e.unit 0 ++ rest)) =
      (e.mark ++ e.body t.beforeZero).take (e.unit * k) := by
  have hl : ∀ u ∈ e.unitsOf t, u.length = e.unit := fun u => length_of_mem_unitsOf
  have hk : ((e.unitsOf t).take k).length < steps :=
    Nat.lt_of_le_of_lt (List.length_take_le k _) hs
  rw [← flatten_unitsOf, take_flatten_units _ hl, ← flatten_unitsOf,
    take_flatten_units _ (fun u => length_of_mem_unitsOf),
    beforeZeroUnit_flatten _ (fun u hu => hl u (List.mem_of_mem_take hu)) rest hk,
    ← List.take_takeWhile, takeWhile_unitsOf ht]

end Encoding

end ByteLayout
