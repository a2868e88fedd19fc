import ByteLayout.Proofs.Text.Units

/-! # Rows of units

The bytes before the first zero unit of a row. A row is taken unit by unit, and what is left of it
at the end may be less than one.
-/
namespace ByteLayout

def cutUnits (unit : Nat) (raw : Bytes) : Bytes := beforeZeroUnit unit raw.length raw

section Units
variable {unit : Nat} {raw u rest : Bytes}

theorem beforeZeroUnit_nil (hu : 0 < unit) (steps : Nat) : beforeZeroUnit unit steps [] = [] := by
  cases steps with
  | zero => rfl
  | succ steps => simp [beforeZeroUnit, hu]

/-- Each step takes a unit, so there are enough of them. -/
theorem beforeZeroUnit_of_length_le (hu : 0 < unit) {steps : Nat} (hs : raw.length ≤ steps) :
    beforeZeroUnit unit steps raw = cutUnits unit raw := by
  have hsteps : ∀ steps' : Nat, raw.length ≤ steps' →
      beforeZeroUnit unit steps raw = beforeZeroUnit unit steps' raw := by
    induction steps generalizing raw with
    | zero =>
      intro steps' _
      obtain rfl := List.length_eq_zero_iff.mp (Nat.le_zero.mp hs)
      rw [beforeZeroUnit_nil hu, beforeZeroUnit_nil hu]
    | succ steps ih =>
      intro steps' hs'
      cases steps' with
      | zero =>
        obtain rfl := List.length_eq_zero_iff.mp (Nat.le_zero.mp hs')
        rw [beforeZeroUnit_nil hu, beforeZeroUnit_nil hu]
      | succ steps' =>
        have hd : (raw.drop unit).length = raw.length - unit := List.length_drop
        have hrest := @ih (raw.drop unit) (by omega) steps' (by omega)
        simp only [beforeZeroUnit, hrest]
  exact hsteps raw.length (Nat.le_refl _)

theorem cutUnits_of_lt (h : raw.length < unit) : cutUnits unit raw = raw := by
  unfold cutUnits
  cases hl : raw.length with
  | zero => rfl
  | succ steps =>
    have ht : (raw.take unit).length < unit := Nat.lt_of_le_of_lt (List.length_take_le' unit raw) h
    simp only [beforeZeroUnit, if_pos ht]

theorem cutUnits_append (hu : 0 < unit) (hl : u.length = unit) :
    cutUnits unit (u ++ rest) = if isZeroUnit u then [] else u ++ cutUnits unit rest := by
  obtain ⟨steps, hs⟩ : ∃ steps, (u ++ rest).length = steps + 1 :=
    Nat.exists_eq_succ_of_ne_zero (by rw [List.length_append]; omega)
  have hrest : rest.length ≤ steps := by
    rw [List.length_append] at hs
    omega
  have ht : (u ++ rest).take unit = u := List.take_left' hl
  have hd : (u ++ rest).drop unit = rest := List.drop_left' hl
  rw [cutUnits, hs, beforeZeroUnit]
  simp only [ht, hd, hl, Nat.lt_irrefl, if_false, beforeZeroUnit_of_length_le hu hrest]
  rfl

/-- A row of bytes is shorter than a unit, or a unit and a row of bytes. -/
theorem unitInduction {motive : Bytes → Prop} (hu : 0 < unit)
    (short : ∀ raw : Bytes, raw.length < unit → motive raw)
    (append : ∀ u rest : Bytes, u.length = unit → motive rest → motive (u ++ rest))
    (raw : Bytes) : motive raw := by
  induction hn : raw.length using Nat.strongRecOn generalizing raw with
  | ind n ih =>
    by_cases h : raw.length < unit
    · exact short raw h
    · have ht : (raw.take unit).length = unit := by
        rw [List.length_take]
        omega
      have hd : (raw.drop unit).length < n := by
        rw [List.length_drop]
        omega
      have hrest := append (raw.take unit) (raw.drop unit) ht (ih _ hd (raw.drop unit) rfl)
      rwa [List.take_append_drop] at hrest

theorem isPrefix_cutUnits (hu : 0 < unit) (raw : Bytes) : cutUnits unit raw <+: raw := by
  induction raw using unitInduction hu with
  | short raw h => exact ⟨[], by rw [cutUnits_of_lt h, List.append_nil]⟩
  | append u rest hl ih =>
    rw [cutUnits_append hu hl]
    split
    · exact List.nil_prefix
    · exact (List.prefix_append_right_inj u).mpr ih

/-- What follows whole units and a zero unit is not looked at. -/
theorem cutUnits_append_zeros (hu : 0 < unit) (hd : unit ∣ raw.length) (rest : Bytes) :
    cutUnits unit (raw ++ (List.replicate unit 0 ++ rest)) = cutUnits unit raw := by
  induction raw using unitInduction hu with
  | short raw h =>
    obtain rfl := List.length_eq_zero_iff.mp (Nat.eq_zero_of_dvd_of_lt hd h)
    have hz : isZeroUnit (List.replicate unit 0) = true := by simp [isZeroUnit]
    rw [List.nil_append, cutUnits_append hu List.length_replicate, if_pos hz, cutUnits_of_lt h]
  | append u more hl ih =>
    rw [List.length_append, hl] at hd
    rw [List.append_assoc, cutUnits_append hu hl, cutUnits_append hu hl,
      ih ((Nat.dvd_add_right (Nat.dvd_refl unit)).mp hd)]

theorem cutUnits_one (raw : Bytes) : cutUnits 1 raw = raw.takeWhile (· != 0) := by
  induction raw with
  | nil => rfl
  | cons b rest ih =>
    have h : cutUnits 1 ([b] ++ rest) = if isZeroUnit [b] then [] else [b] ++ cutUnits 1 rest :=
      cutUnits_append Nat.one_pos rfl
    rw [List.singleton_append, ih] at h
    rw [h, List.takeWhile_cons]
    by_cases hb : b = 0
    · subst hb
      rfl
    · have hz : isZeroUnit [b] = false := by simpa [isZeroUnit] using hb
      have hn : (b != 0) = true := by simpa using hb
      rw [hz, if_pos hn]
      rfl

end Units

end ByteLayout
