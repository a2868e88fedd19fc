import ByteLayout.Proofs.Layout.Window

/-! # One layout after another

The fields of two layouts that share no name make one layout. It is packed as the first and then
the second, and is read as the first and then, where that ends, the second.
-/
namespace ByteLayout

namespace Layout

section
variable {layout other : Layout} {value? : String → Option Value}

/-- The fields of a layout have its slots again, under any name. -/
theorem slotsOf_fields (name : Value) (slots : List Slot) :
    slotsOf name (slots.map fun slot => (slot.name, slot.field)) = .ok slots := by
  induction slots with
  | nil => rfl
  | cons slot rest ih =>
    obtain ⟨fieldName, field, size, sized⟩ := slot
    rw [List.map_cons, slotsOf]
    split
    · next hn =>
      rw [sized] at hn
      cases hn
    · next n hn =>
      obtain rfl := Option.some.inj (sized.symm.trans hn)
      rw [ih]
      rfl

theorem extent_append (first second : List Slot) :
    extent (first ++ second) = extent first + extent second := by
  rw [extent, List.map_append, total_append]
  rfl

theorem placedFrom_append (o : Nat) (first second : List Slot) :
    placedFrom o (first ++ second) =
      placedFrom o first ++ placedFrom (o + extent first) second := by
  induction first generalizing o with
  | nil => rfl
  | cons slot rest ih =>
    rw [List.cons_append, placedFrom, placedFrom, ih, extent_cons, ← Nat.add_assoc,
      List.cons_append]

/-- Slots that are counted from further on are the same slots, each of them further on. -/
theorem placedFrom_add (o k : Nat) (slots : List Slot) :
    placedFrom (k + o) slots = (placedFrom o slots).map fun p => (k + p.1, p.2) := by
  induction slots generalizing o with
  | nil => rfl
  | cons slot rest ih => rw [placedFrom, placedFrom, Nat.add_assoc, ih, List.map_cons]

theorem entryAt_add (order : ByteOrder) (buffer : Bytes) (start k : Nat) (placed : Nat × Slot) :
    entryAt order buffer start (k + placed.1, placed.2) =
      entryAt order buffer (start + k) placed := by
  simp only [entryAt, ← Int.natCast_add, Nat.add_assoc]

theorem packEach_append {first second : List Slot} {bytes : Bytes} :
    layout.packEach value? (first ++ second) = .ok bytes ↔
      ∃ x y, layout.packEach value? first = .ok x ∧ layout.packEach value? second = .ok y ∧
        bytes = x ++ y := by
  induction first generalizing bytes with
  | nil =>
    constructor
    · intro h
      exact ⟨[], bytes, rfl, h, rfl⟩
    · rintro ⟨x, y, hx, hy, rfl⟩
      obtain rfl := Except.ok.inj hx
      exact hy
  | cons slot rest ih =>
    rw [List.cons_append, packEach_cons_eq_ok_iff]
    constructor
    · rintro ⟨v, raw, more, hv, hw, hm, rfl⟩
      obtain ⟨x, y, hx, hy, rfl⟩ := ih.mp hm
      refine ⟨padded slot.size raw ++ x, y, ?_, hy, (List.append_assoc ..).symm⟩
      exact packEach_cons_eq_ok_iff.mpr ⟨v, raw, x, hv, hw, hx, rfl⟩
    · rintro ⟨x, y, hx, hy, rfl⟩
      obtain ⟨v, raw, more, hv, hw, hm, rfl⟩ := packEach_cons_eq_ok_iff.mp hx
      exact ⟨v, raw, more ++ y, hv, hw, ih.mpr ⟨more, y, hm, hy, rfl⟩, List.append_assoc ..⟩

/-- Of the layout, no more than its byte order is in the bytes. -/
theorem packEach_of_order (ho : other.order = layout.order) {slots : List Slot} {bytes : Bytes}
    (h : layout.packEach value? slots = .ok bytes) : other.packEach value? slots = .ok bytes := by
  induction slots generalizing bytes with
  | nil => exact h
  | cons slot rest ih =>
    obtain ⟨v, raw, more, hv, hw, hm, rfl⟩ := packEach_cons_eq_ok_iff.mp h
    exact packEach_cons_eq_ok_iff.mpr ⟨v, raw, more, hv, by rwa [ho], ih hm, rfl⟩

end

section
variable {whole first second : Layout} (hslots : whole.slots = first.slots ++ second.slots)
include hslots

theorem size_of_append : whole.size = first.size + second.size := by
  have he := extent_append first.slots second.slots
  rwa [← hslots] at he

theorem placed_of_append :
    whole.placed = first.placed ++ second.placed.map fun p => (first.size + p.1, p.2) := by
  rw [placed, hslots, placedFrom_append, placed, placed, ← placedFrom_add, Nat.add_comm]
  rfl

/-- The entries are those of the first layout and then those of the second, and when one of them
fails the whole does, with the warnings that it has given by then. -/
theorem unpack_of_append (hwhole : whole.order = first.order) (ho : second.order = first.order)
    {b : Bytes} {o : Nat} (hb : o + whole.size ≤ b.length) :
    Items.entries <$> whole.unpack b o = do
      let x ← first.unpack b o
      let y ← second.unpack b (o + first.size : Nat)
      return x.entries ++ y.entries := by
  have hsize := size_of_append hslots
  have hmoved : entryAt first.order b o ∘ (fun p : Nat × Slot => (first.size + p.1, p.2)) =
      entryAt first.order b (o + first.size) :=
    funext fun p => entryAt_add first.order b o first.size p
  have hx : Items.entries <$> first.unpack b o = first.placed.mapM (entryAt first.order b o) :=
    entries_map_unpack (by omega)
  have hy : Items.entries <$> second.unpack b (o + first.size : Nat) =
      second.placed.mapM (entryAt first.order b (o + first.size)) := by
    rw [← ho]
    exact entries_map_unpack (by omega)
  rw [entries_map_unpack hb, hwhole, placed_of_append hslots, List.mapM_append, List.mapM_map,
    hmoved, ← hx, ← hy]
  simp only [bind_map_left]

theorem exists_entries_of_append (hwhole : whole.order = first.order)
    (ho : second.order = first.order) {b : Bytes} {o : Nat} (hb : o + whole.size ≤ b.length)
    {x y : Items Value} (hx : (first.unpack b o).result = .ok x)
    (hy : (second.unpack b (o + first.size : Nat)).result = .ok y) :
    ∃ items, (whole.unpack b o).result = .ok items ∧ items.entries = x.entries ++ y.entries := by
  apply Logged.result_map_eq_ok_iff.mp
  rw [unpack_of_append hslots hwhole ho hb]
  exact Logged.result_bind_eq_ok_iff.mpr
    ⟨x, hx, Logged.result_bind_eq_ok_iff.mpr ⟨y, hy, rfl⟩⟩

end

end Layout

end ByteLayout
