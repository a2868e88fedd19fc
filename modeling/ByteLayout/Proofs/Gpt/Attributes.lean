import ByteLayout.Proofs.Bits.Numbers
import ByteLayout.Proofs.Gpt.Layouts

/-! # The attributes of an entry

The attributes are the bits of a number of 64 bits. They are asked for by their numbers, from the
least significant one on, in a row that has the most significant one first. A number from 64 on
asks for a place before the row, which the next 64 find counted from its end.
-/
namespace ByteLayout

namespace Bits
variable {row : Bits} {m : Nat}

/-- Places before the row are counted from its end, as far as the row is long. -/
theorem Spells.item? (h : row.Spells m) (bit : Nat) :
    ByteLayout.item? row (row.length - 1 - bit) =
      if bit < row.length then some (m.testBit bit)
      else if bit < 2 * row.length then some (m.testBit (bit - row.length))
      else none := by
  have hindex : index? row.length (row.length - 1 - bit) =
      if bit < row.length then some (row.length - 1 - bit)
      else if bit < 2 * row.length then some (row.length - 1 - (bit - row.length))
      else none := by
    simp only [index?]
    split_ifs <;> first | omega | (congr 1; omega) | rfl
  rw [ByteLayout.item?, hindex]
  split_ifs with hin hback
  · exact h.bit bit hin
  · exact h.bit (bit - row.length) (by omega)
  · rfl

end Bits

namespace Gpt

theorem hasAttribute_of_spells {items : Items Value} {row : Bits} {m : Nat}
    (hv : items.get? "attributes" = some (.bitBuffer row)) (hrow : row.Spells m) (bit : Nat) :
    hasAttribute items (.int bit) =
      if bit < row.length then .ok (m.testBit bit)
      else if bit < 2 * row.length then .ok (m.testBit (bit - row.length))
      else .error (.bare .outOfRange) := by
  have hfound : ∀ b, item? row (row.length - 1 - bit) = some b →
      hasAttribute items (.int bit) = .ok b := by
    intro b hb
    rw [hasAttribute, hv]
    simp only [attributesLength, bind, Except.bind, Value.asBits?, Value.asInt?_int, hb]
  have hbeyond : item? row (row.length - 1 - bit) = none →
      hasAttribute items (.int bit) = .error (.bare .outOfRange) := by
    intro hb
    rw [hasAttribute, hv]
    simp only [attributesLength, bind, Except.bind, Value.asBits?, Value.asInt?_int, hb]
  have hitem := hrow.item? bit
  split_ifs at hitem ⊢
  · exact hfound _ hitem
  · exact hfound _ hitem
  · exact hbeyond hitem

section
variable {image : Bytes} {o : Nat} {items : Items Value} (hb : o + 128 ≤ image.length)
  (hu : (entryLayout.unpack image o).result = .ok items)
include hb hu

theorem exists_attributes_of_unpack : ∃ row : Bits,
    items.get? "attributes" = some (.bitBuffer row) ∧ row.length = 64 ∧
      row.Spells (numberAt image (o + 48) 8) := by
  have hm : (48, ⟨"attributes", .bits (.int 8), 8, rfl⟩) ∈ entryLayout.placed :=
    List.mem_of_getElem? (i := 4) rfl
  obtain ⟨v, hv, hl, hr⟩ := exists_read_of_unpack hb hu hm (.bits _)
  obtain rfl := Except.ok.inj hr
  refine ⟨_, hv, ?_, Bits.spells_ofBytes .little _⟩
  rw [Bits.length_ofBytes, ByteOrder.length_arrangeBig, hl]
  rfl

theorem hasAttribute_of_unpack (bit : Nat) :
    hasAttribute items (.int bit) =
      if bit < 64 then .ok ((numberAt image (o + 48) 8).testBit bit)
      else if bit < 128 then .ok ((numberAt image (o + 48) 8).testBit (bit - 64))
      else .error (.bare .outOfRange) := by
  obtain ⟨row, hv, hl, hrow⟩ := exists_attributes_of_unpack hb hu
  have h := hasAttribute_of_spells hv hrow bit
  rwa [hl] at h

end

/-- An attribute below 64 is the bit of its number. One from 64 to 127 is taken for the one that
is 64 below it, and only those beyond are refused. -/
theorem hasAttribute_outcome {b : Bytes} (hb : b.length = 128) :
    ∃ items, (entryLayout.unpack b 0).result = .ok items ∧ ∀ bit : Nat,
      hasAttribute items (.int bit) =
        if bit < 64 then .ok ((numberAt b 48 8).testBit bit)
        else if bit < 128 then .ok ((numberAt b 48 8).testBit (bit - 64))
        else .error (.bare .outOfRange) := by
  have hsize : 0 + 128 ≤ b.length := by omega
  obtain ⟨items, hu⟩ := Layout.exists_unpack_of_readsAny
    (fun slot hm => (reads_entryLayout slot hm).2) hsize
  refine ⟨items, hu, fun bit => ?_⟩
  have h := hasAttribute_of_unpack hsize hu bit
  rwa [Nat.zero_add] at h

def requiredEntry : Bytes := List.replicate 48 0 ++ 1 :: List.replicate 79 0

theorem hasAttribute_requiredEntry :
    requiredEntry.length = 128 ∧ ∃ items, (entryLayout.unpack requiredEntry 0).result = .ok items ∧
      hasAttribute items (.int (0 : Nat)) = .ok true ∧
      hasAttribute items (.int (1 : Nat)) = .ok false ∧
      hasAttribute items (.int (64 : Nat)) = .ok true ∧
      hasAttribute items (.int (128 : Nat)) = .error (.bare .outOfRange) := by
  have hl : requiredEntry.length = 128 := rfl
  have hnumber : numberAt requiredEntry 48 8 = 1 := by decide +kernel
  obtain ⟨items, hu, h⟩ := hasAttribute_outcome hl
  simp only [hnumber] at h
  refine ⟨hl, items, hu, ?_, ?_, ?_, ?_⟩
  all_goals
    rw [h]
    rfl

/-- An attribute is reported that there is no bit for. -/
theorem hasAttribute_wraps :
    ¬∀ b : Bytes, b.length = 128 → ∀ items, (entryLayout.unpack b 0).result = .ok items →
      ∀ bit : Nat, hasAttribute items (.int bit) = .ok true → bit < 64 := by
  intro hbelow
  have hsize : 0 + 128 ≤ requiredEntry.length := by decide +kernel
  obtain ⟨items, hu⟩ := Layout.exists_unpack_of_readsAny
    (fun slot hm => (reads_entryLayout slot hm).2) hsize
  have hnumber : numberAt requiredEntry (0 + 48) 8 = 1 := by decide +kernel
  have hset : hasAttribute items (.int (64 : Nat)) = .ok true := by
    rw [hasAttribute_of_unpack hsize hu, hnumber]
    rfl
  exact absurd (hbelow requiredEntry rfl items hu 64 hset) (by decide)

end Gpt

end ByteLayout
