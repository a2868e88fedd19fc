import ByteLayout.Proofs.Text.Cut
import ByteLayout.Proofs.Text.ZeroUnit
import Mathlib.Data.List.GetD

/-! # Surrogates that stand alone

Units that are read and written again are the same units, but for those of a pair that stand
without the other: of each comes a replacement character, which is one unit too, so that no unit
changes its place. A text that is cut in the middle of a pair leaves such a unit at its end.
-/
namespace ByteLayout.Utf16

/-- A high unit that no low one follows, or a low one that follows no high one. -/
def isUnpaired (units : List Nat) (i : Nat) : Bool :=
  (isHigh (units.getD i 0) && !isLow (units.getD (i + 1) 0)) ||
    (isLow (units.getD i 0) && (i == 0 || !isHigh (units.getD (i - 1) 0)))

def mended (units : List Nat) : List Nat :=
  units.mapIdx fun i u => if isUnpaired units i then Text.replacement else u

theorem length_mended (units : List Nat) : (mended units).length = units.length :=
  List.length_mapIdx

theorem isLow_of_isHigh {u : Nat} (h : isHigh u = true) : isLow u = false := by
  simp only [isHigh, Bool.and_eq_true, decide_eq_true_eq] at h
  simp only [isLow, Bool.and_eq_false_iff, decide_eq_false_iff_not]
  omega

theorem isHigh_of_isLow {u : Nat} (h : isLow u = true) : isHigh u = false := by
  rw [← Bool.not_eq_true]
  intro hh
  rw [isLow_of_isHigh hh] at h
  cases h

theorem isUnpaired_zero (u : Nat) (units : List Nat) :
    isUnpaired (u :: units) 0 = ((isHigh u && !isLow (units.getD 0 0)) || isLow u) := by
  simp only [isUnpaired, List.getD_cons_zero, List.getD_cons_succ, Nat.zero_add, BEq.rfl,
    Bool.true_or, Bool.and_true]

/-- A unit in front is nothing to the others, unless it makes a pair with the first of them. -/
theorem isUnpaired_succ {u : Nat} {units : List Nat}
    (h : isHigh u = true → isLow (units.getD 0 0) = false) (i : Nat) :
    isUnpaired (u :: units) (i + 1) = isUnpaired units i := by
  cases i with
  | zero =>
    simp only [isUnpaired, List.getD_cons_succ, List.getD_cons_zero, Nat.add_sub_cancel]
    cases hh : isHigh u with
    | true =>
      rw [h hh]
      simp
    | false => simp
  | succ i =>
    simp only [isUnpaired, List.getD_cons_succ, Nat.add_sub_cancel]
    rfl

theorem mended_cons {u : Nat} {units : List Nat}
    (h : isHigh u = true → isLow (units.getD 0 0) = false) :
    mended (u :: units) =
      (if isUnpaired (u :: units) 0 then Text.replacement else u) :: mended units := by
  rw [mended, List.mapIdx_cons, mended]
  simp only [isUnpaired_succ h]

theorem mended_pair {u v : Nat} (hu : isHigh u = true) (hv : isLow v = true) (units : List Nat) :
    mended (u :: v :: units) = u :: v :: mended units := by
  have hfirst : isUnpaired (u :: v :: units) 0 = false := by
    rw [isUnpaired_zero, List.getD_cons_zero, hv, isLow_of_isHigh hu, hu]
    rfl
  have hsecond : isUnpaired (u :: v :: units) 1 = false := by
    simp only [isUnpaired, List.getD_cons_succ, List.getD_cons_zero, isHigh_of_isLow hv,
      Nat.sub_self, hu]
    simp
  have hrest : ∀ i, isUnpaired (u :: v :: units) (i + 1 + 1) = isUnpaired units i := by
    intro i
    cases i with
    | zero =>
      simp only [isUnpaired, List.getD_cons_succ, List.getD_cons_zero, Nat.add_sub_cancel,
        isHigh_of_isLow hv]
      simp
    | succ i =>
      simp only [isUnpaired, List.getD_cons_succ, Nat.add_sub_cancel]
      rfl
  rw [mended, List.mapIdx_cons, List.mapIdx_cons, mended]
  simp only [hfirst, hsecond, hrest, Bool.false_eq_true, if_false]

theorem encodeChar_single {c : Nat} (hc : c < 0x10000) : encodeChar c = [c] := if_pos hc

theorem encodeChar_pair {u v : Nat} (hu : isHigh u = true) (hv : isLow v = true) :
    encodeChar (0x10000 + (u - 0xD800) * 0x400 + (v - 0xDC00)) = [u, v] := by
  simp only [isHigh, isLow, Bool.and_eq_true, decide_eq_true_eq] at hu hv
  have hge : ¬0x10000 + (u - 0xD800) * 0x400 + (v - 0xDC00) < 0x10000 := by omega
  have hhigh : 0xD800 + (0x10000 + (u - 0xD800) * 0x400 + (v - 0xDC00) - 0x10000) / 0x400 = u := by
    omega
  have hlow : 0xDC00 + (0x10000 + (u - 0xD800) * 0x400 + (v - 0xDC00) - 0x10000) % 0x400 = v := by
    omega
  rw [encodeChar, if_neg hge, hhigh, hlow]

/-- Reading and writing again mends the units. -/
theorem flatMap_encodeChar_decodeUnits {units : List Nat} (hu : ∀ u ∈ units, u < 0x10000) :
    (decodeUnits false units).flatMap encodeChar = mended units := by
  have hsingle : ∀ {u : Nat} {rest : List Nat}, u < 0x10000 → ¬isHigh u = true →
      (decodeUnits false rest).flatMap encodeChar = mended rest →
      ((if isLow u then Text.replacement else u) :: decodeUnits false rest).flatMap encodeChar =
        mended (u :: rest) := by
    intro u rest hlt hh ih
    have hfirst : isUnpaired (u :: rest) 0 = isLow u := by
      rw [isUnpaired_zero, eq_false_of_ne_true hh]
      rfl
    have hc : (if isLow u then Text.replacement else u) < 0x10000 := by
      split
      · decide
      · exact hlt
    rw [List.flatMap_cons, encodeChar_single hc, ih, mended_cons (fun h => absurd h hh), hfirst]
    rfl
  generalize ho : false = odd
  fun_induction decodeUnits odd units with
  | case1 h =>
    subst ho
    cases h
  | case2 => rfl
  | case3 u hh =>
    have hfirst : isUnpaired [u] 0 = true := by
      rw [isUnpaired_zero, hh]
      rfl
    rw [mended_cons (fun _ => rfl), hfirst]
    rfl
  | case4 u hh ih =>
    subst ho
    exact hsingle (hu u List.mem_cons_self) hh (ih fun _ h => absurd h List.not_mem_nil)
  | case5 u v rest hh hl ih =>
    have hrest := ih fun w hw => hu w (List.mem_cons_of_mem _ (List.mem_cons_of_mem _ hw))
    rw [List.flatMap_cons, encodeChar_pair hh hl, hrest, mended_pair hh hl]
    rfl
  | case6 u v rest hh hl ih =>
    have hrest := ih fun w hw => hu w (List.mem_cons_of_mem _ hw)
    have hlow := eq_false_of_ne_true hl
    have hfirst : isUnpaired (u :: v :: rest) 0 = true := by
      rw [isUnpaired_zero, List.getD_cons_zero, hh, hlow]
      rfl
    have hrow : mended (u :: v :: rest) =
        (if isUnpaired (u :: v :: rest) 0 then Text.replacement else u) :: mended (v :: rest) :=
      mended_cons fun _ => hlow
    rw [List.flatMap_cons, hrest, hrow, hfirst]
    rfl
  | case7 u v rest hh ih =>
    subst ho
    exact hsingle (hu u List.mem_cons_self) hh
      (ih fun w hw => hu w (List.mem_cons_of_mem _ hw))

theorem decodeUnits_flatMap_encodeChar {t : Text} (ht : ∀ c ∈ t, Text.isScalar c = true) :
    decodeUnits false (t.flatMap encodeChar) = t := by
  induction t with
  | nil => rfl
  | cons c t ih =>
    obtain ⟨hc, ht⟩ := List.forall_mem_cons.mp ht
    rw [List.flatMap_cons, decodeUnits_encodeChar hc, ih ht]

/-- The text of the units is that of the mended ones. -/
theorem decodeUnits_mended {units : List Nat} (hu : ∀ u ∈ units, u < 0x10000) :
    decodeUnits false (mended units) = decodeUnits false units := by
  rw [← flatMap_encodeChar_decodeUnits hu]
  exact decodeUnits_flatMap_encodeChar fun c hc => isScalar_of_mem_decodeUnits hu hc

theorem mem_mended {units : List Nat} {u : Nat} (h : u ∈ mended units) :
    u = Text.replacement ∨ u ∈ units := by
  obtain ⟨i, hi, rfl⟩ := List.mem_mapIdx.mp h
  split
  · exact .inl rfl
  · exact .inr (List.getElem_mem hi)

/-- Nothing is mended where each surrogate is one of a pair. -/
theorem mended_eq_self_iff {units : List Nat} :
    mended units = units ↔ ∀ i < units.length, isUnpaired units i = false := by
  constructor
  · intro h i hi
    have hm : (mended units)[i]? = some units[i] := by
      rw [h, List.getElem?_eq_getElem hi]
    rw [mended, List.getElem?_mapIdx, List.getElem?_eq_getElem hi, Option.map_some] at hm
    cases hp : isUnpaired units i with
    | false => rfl
    | true =>
      rw [hp] at hm
      have hu : units.getD i 0 = Text.replacement := by
        rw [List.getD_eq_getElem _ _ hi]
        exact (Option.some.inj hm).symm
      rw [isUnpaired, hu] at hp
      have hnot : ∀ a b : Bool,
          (isHigh Text.replacement && a || isLow Text.replacement && b) = false := by
        decide
      rw [hnot] at hp
      exact hp.symm
  · intro h
    apply List.ext_getElem (length_mended units)
    intro i hi hi'
    simp only [mended, List.getElem_mapIdx, h i hi', Bool.false_eq_true, if_false]

/-! ## A text that is cut -/

def unitCount (t : Text) : Nat := (t.flatMap encodeChar).length

theorem unitCount_append (s t : Text) : unitCount (s ++ t) = unitCount s + unitCount t := by
  rw [unitCount, List.flatMap_append, List.length_append]
  rfl

theorem length_body (order : ByteOrder) (t : Text) :
    ((Encoding.utf16 (some order)).body t).length = 2 * unitCount t := by
  rw [Encoding.body_utf16, length_writeUnits, unitCount]

structure IsLongest (budget : Nat) (t q : Text) : Prop where
  initial : q <+: t
  fits : unitCount q ≤ budget
  longest : ∀ p, p <+: t → unitCount p ≤ budget → p <+: q

/-- The next character takes more units than are left, but no more than two. -/
theorem IsLongest.le_unitCount {budget : Nat} {t q : Text} (h : IsLongest budget t q)
    (ht : budget < unitCount t) : budget ≤ unitCount q + 1 := by
  obtain ⟨rest, rfl⟩ := h.initial
  cases rest with
  | nil =>
    rw [List.append_nil] at ht
    exact absurd h.fits (Nat.not_le_of_lt ht)
  | cons c rest =>
    have hc : unitCount [c] ≤ 2 := by
      rw [unitCount, List.flatMap_singleton]
      rcases length_encodeChar c with h1 | ⟨h2, -⟩ <;> omega
    have hnext : q ++ [c] <+: q ++ c :: rest :=
      (List.prefix_append_right_inj q).mpr ⟨rest, rfl⟩
    have hlong : ¬unitCount (q ++ [c]) ≤ budget := by
      intro hle
      have hl := (h.longest _ hnext hle).length_le
      rw [List.length_append, List.length_singleton] at hl
      omega
    rw [unitCount_append] at hlong
    omega

/-- A text that is cut to so many units is read as the characters that fit, and a replacement
where one unit is left for the next. -/
theorem exists_isLongest (order : ByteOrder) {t : Text} (ht : ∀ c ∈ t, Text.isScalar c = true)
    {budget : Nat} (hl : budget < unitCount t) :
    ∃ q, IsLongest budget t q ∧
      decode order (((Encoding.utf16 (some order)).body t).take (2 * budget)) =
        q ++ if unitCount q + 1 = budget then [Text.replacement] else [] := by
  have hle : 2 * budget ≤ ((Encoding.utf16 (some order)).body t).length := by
    rw [length_body]
    omega
  obtain ⟨q, hq, hd⟩ := Encoding.exists_longestFit (e := .utf16 (some order)) ht
    (Nat.dvd_mul_right 2 budget) hle
  have hbytes : ∀ p, ((Encoding.utf16 (some order)).body p).length ≤ 2 * budget ↔
      unitCount p ≤ budget := by
    intro p
    rw [length_body]
    omega
  have hlongest : IsLongest budget t q := ⟨hq.initial, (hbytes q).mp hq.fits, fun p hp hf =>
    hq.longest p hp ((hbytes p).mpr hf)⟩
  refine ⟨q, hlongest, hd.trans ?_⟩
  have hnext := hlongest.le_unitCount hl
  have hfits := hlongest.fits
  have hcut : ((Encoding.utf16 (some order)).body q).length < 2 * budget ↔
      unitCount q + 1 = budget := by
    rw [length_body]
    omega
  simp only [hcut]

end ByteLayout.Utf16
