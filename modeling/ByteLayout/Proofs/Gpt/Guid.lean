import ByteLayout.Gpt.Guid

/-! # GUIDs and their texts

The text of a GUID has five groups of digits between dashes. Read group by group, with the first
three turned around, it gives the bytes that it was made of, so no other bytes have the same text.
-/
namespace ByteLayout

namespace Hex

def isUpperDigit (c : Char) : Bool := ('0' ≤ c && c ≤ '9') || ('A' ≤ c && c ≤ 'F')

theorem value?_upperDigit : ∀ n < 16, value? (upperDigit n) = some n := by decide

theorem isUpperDigit_upperDigit : ∀ n < 16, isUpperDigit (upperDigit n) = true := by decide

end Hex

namespace Gpt

def joinGuid? : List Bytes → Option Bytes
  | [a, b, c, d, e] => some (a.reverse ++ b.reverse ++ c.reverse ++ d ++ e)
  | _ => none

def readGuid? (t : List Char) : Option Bytes :=
  ((t.splitOn '-').mapM Hex.toBytes?).bind joinGuid?

def guidDashes : List Nat := [8, 13, 18, 23]

structure IsGuidText (t : List Char) : Prop where
  length_eq : t.length = 36
  dash_iff : ∀ i, t[i]? = some '-' ↔ i ∈ guidDashes
  digit : ∀ c ∈ t, c ≠ '-' → Hex.isUpperDigit c = true

/-! ## A group -/

theorem guidGroupText_cons (b : UInt8) (rest : Bytes) :
    guidGroupText (b :: rest) =
      Hex.upperDigit (b.toNat / 16) :: Hex.upperDigit (b.toNat % 16) :: guidGroupText rest := rfl

theorem length_guidGroupText (group : Bytes) : (guidGroupText group).length = 2 * group.length := by
  induction group with
  | nil => rfl
  | cons b rest ih =>
    rw [guidGroupText_cons, List.length_cons, List.length_cons, List.length_cons, ih]
    omega

theorem isUpperDigit_of_mem_guidGroupText {group : Bytes} {c : Char}
    (h : c ∈ guidGroupText group) : Hex.isUpperDigit c = true := by
  obtain ⟨b, -, hc⟩ := List.mem_flatMap.mp h
  have hb := b.toNat_lt
  simp only [List.mem_cons, List.not_mem_nil, or_false] at hc
  rcases hc with rfl | rfl
  · exact Hex.isUpperDigit_upperDigit _ (by omega)
  · exact Hex.isUpperDigit_upperDigit _ (by omega)

theorem dash_notMem_guidGroupText (group : Bytes) : '-' ∉ guidGroupText group := by
  intro h
  exact absurd (isUpperDigit_of_mem_guidGroupText h) (by decide)

theorem toBytes?_guidGroupText (group : Bytes) :
    Hex.toBytes? (guidGroupText group) = some group := by
  induction group with
  | nil => rfl
  | cons b rest ih =>
    have hb := b.toNat_lt
    have hhigh := Hex.value?_upperDigit (b.toNat / 16) (by omega)
    have hlow := Hex.value?_upperDigit (b.toNat % 16) (by omega)
    rw [guidGroupText_cons, Hex.toBytes?, hhigh, hlow, ih]
    simp only [bind, Option.bind, Nat.div_add_mod, UInt8.ofNat_toNat]
    rfl

theorem mapM_toBytes?_guidGroupText (groups : List Bytes) :
    (groups.map guidGroupText).mapM Hex.toBytes? = some groups := by
  induction groups with
  | nil => rfl
  | cons group rest ih =>
    rw [List.map_cons, List.mapM_cons, toBytes?_guidGroupText, ih]
    rfl

/-! ## The five groups -/

theorem joinGuid?_guidGroups (raw : Bytes) : joinGuid? (guidGroups raw) = some raw := by
  have hjoin : raw.take 4 ++ (raw.drop 4).take 2 ++ (raw.drop 6).take 2 ++ (raw.drop 8).take 2 ++
      raw.drop 10 = raw := by
    rw [← List.take_add, ← List.take_add, ← List.take_add, List.take_append_drop]
  simp only [guidGroups, joinGuid?, List.reverse_reverse, hjoin]

theorem readGuid?_guidChars (raw : Bytes) : readGuid? (guidChars raw) = some raw := by
  have hsplit : (guidChars raw).splitOn '-' = (guidGroups raw).map guidGroupText := by
    apply List.splitOn_intercalate
    · intro text hm
      obtain ⟨group, -, rfl⟩ := List.mem_map.mp hm
      exact dash_notMem_guidGroupText group
    · exact List.cons_ne_nil _ _
  rw [readGuid?, hsplit, mapM_toBytes?_guidGroupText]
  exact joinGuid?_guidGroups raw

theorem isUpperDigit_of_mem_intercalate {groups : List Bytes} {c : Char}
    (hc : c ∈ ['-'].intercalate (groups.map guidGroupText)) (hne : c ≠ '-') :
    Hex.isUpperDigit c = true := by
  induction groups with
  | nil => exact absurd hc List.not_mem_nil
  | cons group rest ih =>
    cases rest with
    | nil =>
      rw [List.map_cons, List.map_nil, List.intercalate_singleton] at hc
      exact isUpperDigit_of_mem_guidGroupText hc
    | cons next more =>
      rw [List.map_cons, List.map_cons, List.intercalate_cons_cons, List.mem_append,
        List.mem_append, List.mem_singleton] at hc
      rcases hc with (hc | hc) | hc
      · exact isUpperDigit_of_mem_guidGroupText hc
      · exact absurd hc hne
      · exact ih hc

theorem map_isDash_guidGroupText (group : Bytes) :
    (guidGroupText group).map (· == '-') = List.replicate (2 * group.length) false := by
  rw [← length_guidGroupText, List.map_eq_replicate_iff]
  intro c hc
  exact beq_false_of_ne (ne_of_mem_of_not_mem hc (dash_notMem_guidGroupText group))

section
variable {raw : Bytes} (h : raw.length = 16)
include h

theorem map_isDash_guidChars :
    (guidChars raw).map (· == '-') = (List.range 36).map guidDashes.contains := by
  simp only [guidChars, guidGroups, List.map_cons, List.map_nil, List.intercalate_cons_cons,
    List.intercalate_singleton, List.map_append, map_isDash_guidGroupText, List.length_reverse,
    List.length_take, List.length_drop, h]
  decide

theorem isGuidText_guidChars : IsGuidText (guidChars raw) where
  length_eq := by
    have hl := congrArg List.length (map_isDash_guidChars h)
    rwa [List.length_map, List.length_map, List.length_range] at hl
  dash_iff i := by
    have hmap := congrArg (·[i]?) (map_isDash_guidChars h)
    simp only [List.getElem?_map] at hmap
    have hdash : ∀ c? : Option Char, c? = some '-' ↔ c?.map (· == '-') = some true := by
      simp
    have hplace : (List.range 36)[i]?.map guidDashes.contains = some true ↔ i ∈ guidDashes := by
      by_cases hi : i < 36
      · rw [List.getElem?_range hi]
        simp
      · have hle : ∀ j ∈ guidDashes, j < 36 := by decide
        rw [List.getElem?_eq_none (by rw [List.length_range]; omega)]
        exact iff_of_false (by simp) fun hm => hi (hle i hm)
    rw [hdash, hmap, hplace]
  digit _ hc hne := isUpperDigit_of_mem_intercalate hc hne

end

section
variable {v : Value} {raw : Bytes} (hv : v.asBytes? = some raw)
include hv

theorem guidTextOf_of_asBytes? :
    guidTextOf v = match guidText? raw with
      | some t => .ok (t.map Char.toNat)
      | none => .error (.bare .badValue) := by
  cases v with
  | bytes b | buffer b =>
    obtain rfl := Option.some.inj hv
    rfl
  | _ => cases hv

theorem guidTextOf_of_length (h : raw.length = 16) :
    guidTextOf v = .ok ((guidChars raw).map Char.toNat) := by
  rw [guidTextOf_of_asBytes? hv, guidText?, if_pos h]

theorem guidTextOf_of_length_ne (h : raw.length ≠ 16) :
    guidTextOf v = .error (.bare .badValue) := by
  rw [guidTextOf_of_asBytes? hv, guidText?, if_neg h]

/-- The text of sixteen bytes has dashes in four places and digits in all others, and can be read
back, so that it is the text of no others. Other rows of bytes have none. -/
theorem guidTextOf_outcome :
    (raw.length = 16 → ∃ t : List Char, guidTextOf v = .ok (t.map Char.toNat) ∧ IsGuidText t ∧
      readGuid? t = some raw ∧
      ∀ v' raw', v'.asBytes? = some raw' → guidTextOf v' = guidTextOf v → raw' = raw) ∧
    (raw.length ≠ 16 → guidTextOf v = .error (.bare .badValue)) := by
  refine ⟨fun h => ⟨_, guidTextOf_of_length hv h, isGuidText_guidChars h, readGuid?_guidChars raw,
    fun v' raw' hv' hsame => ?_⟩, guidTextOf_of_length_ne hv⟩
  rw [guidTextOf_of_length hv h] at hsame
  by_cases h' : raw'.length = 16
  · rw [guidTextOf_of_length hv' h'] at hsame
    have htext := (List.map_inj_right fun _ _ h => Char.toNat_inj.mp h).mp (Except.ok.inj hsame)
    have hread := readGuid?_guidChars raw'
    rw [htext, readGuid?_guidChars raw] at hread
    exact (Option.some.inj hread).symm
  · rw [guidTextOf_of_length_ne hv' h'] at hsame
    cases hsame

end

/-- A type of partitions, no group of which is the same turned around. -/
def systemType : Bytes :=
  [0x28, 0x73, 0x2A, 0xC1, 0x1F, 0xF8, 0xD2, 0x11, 0xBA, 0x4B, 0x00, 0xA0, 0xC9, 0x3E, 0xC9, 0x3B]

theorem guidTextOf_systemType :
    (∃ t : List Char, guidTextOf (.buffer systemType) = .ok (t.map Char.toNat) ∧
      t.map Char.toNat = Text.of "C12A7328-F81F-11D2-BA4B-00A0C93EC93B" ∧ IsGuidText t ∧
      readGuid? t = some systemType) ∧
    guidTextOf (.bytes (systemType.take 15)) = .error (.bare .badValue) := by
  have hshort := guidTextOf_outcome (v := .bytes (systemType.take 15)) rfl
  obtain ⟨t, ht, hg, hread, -⟩ := (guidTextOf_outcome (v := .buffer systemType) rfl).1 rfl
  refine ⟨⟨t, ht, ?_, hg, hread⟩, hshort.2 (by decide)⟩
  have htext : guidTextOf (.buffer systemType) =
      .ok (Text.of "C12A7328-F81F-11D2-BA4B-00A0C93EC93B") := by rfl
  exact Except.ok.inj (ht.symm.trans htext)

end Gpt

end ByteLayout
