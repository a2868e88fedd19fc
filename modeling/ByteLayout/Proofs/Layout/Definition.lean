import ByteLayout.Proofs.Layout.Window

/-! # Defining layouts

A row of fields can be made a layout when each has a size for its slot, and the first that has
none decides what is told. The name has no part in it: under another one there are the same slots,
which take the same bytes from the same values.
-/
namespace ByteLayout.Layout
variable {name : Value} {fields : List (String × Field)} {layout other : Layout}

section
variable {fieldName : String} {field : Field}

theorem size_of_declared (h : field.declared ≠ .none) : field.size = .ok field.declared := by
  unfold Field.size
  split
  · next hn => exact absurd hn h
  · rfl

theorem size_of_missing (h : field.declared = .none) :
    field.size = .error (field.notProvided "_get_size") := by
  rw [Field.size, h]
  rfl

/-- Fields can be shown when their size is there, but for a number with something else in the
place of its enumeration. -/
theorem exists_shown_or (hd : field.declared ≠ .none) :
    (∃ shown, field.shown = .ok shown) ∨
      ∃ name format label fault,
        field = .labelled name format label ∧ field.shown = .error fault := by
  have hs := size_of_declared hd
  cases field with
  | number name format members => exact .inl ⟨_, rfl⟩
  | nested layout size => exact .inl ⟨_, rfl⟩
  | labelled name format label =>
    cases h : (Field.labelled name format label).shown with
    | ok shown => exact .inl ⟨shown, rfl⟩
    | error fault => exact .inr ⟨name, format, label, fault, rfl, rfl⟩
  | _ =>
    left
    simp only [Field.shown, hs]
    exact ⟨_, rfl⟩

/-- A size that is there is told with the field if it can be written. -/
theorem badSize_of_shown {shown : Text} (hs : field.shown = .ok shown)
    (hd : field.declared ≠ .none) :
    badSize name fieldName field =
      if field.declared.asInt?.all Text.isWritable then
        .layout .definition [name, .ofString fieldName] (.badSize shown field.declared)
      else .bare .badValue := by
  simp only [badSize, size_of_declared hd, hs]

theorem badSize_of_unshown {fault : Fault} (hs : field.shown = .error fault)
    (hd : field.declared ≠ .none) : badSize name fieldName field = fault := by
  simp only [badSize, size_of_declared hd, hs]

theorem badSize_of_missing (h : field.declared = .none) :
    badSize name fieldName field = field.notProvided "_get_size" := by
  simp only [badSize, size_of_missing h]

end

theorem slotsOf_cons_of_none {fieldName : String} {field : Field} (h : field.slotSize? = none)
    (rest : List (String × Field)) :
    slotsOf name ((fieldName, field) :: rest) = .error (badSize name fieldName field) := by
  rw [slotsOf]
  split
  · rfl
  · next n hn =>
    rw [h] at hn
    cases hn

theorem slotsOf_cons_of_some {fieldName : String} {field : Field} {n : Nat}
    (h : field.slotSize? = some n) (rest : List (String × Field)) :
    slotsOf name ((fieldName, field) :: rest) =
      (slotsOf name rest).map (⟨fieldName, field, n, h⟩ :: ·) := by
  rw [slotsOf]
  split
  · next hn =>
    rw [h] at hn
    cases hn
  · next m hm =>
    obtain rfl := Option.some.inj (h.symm.trans hm)
    rfl

theorem exists_slotsOf (h : ∀ entry ∈ fields, (entry.2.slotSize?).isSome) :
    ∃ slots, slotsOf name fields = .ok slots := by
  induction fields with
  | nil => exact ⟨[], rfl⟩
  | cons entry rest ih =>
    obtain ⟨n, hn⟩ := Option.isSome_iff_exists.mp (h entry List.mem_cons_self)
    obtain ⟨slots, hs⟩ := ih fun other hm => h other (List.mem_cons_of_mem _ hm)
    refine ⟨⟨entry.1, entry.2, n, hn⟩ :: slots, ?_⟩
    rw [slotsOf_cons_of_some hn, hs]
    rfl

theorem entries_of_slotsOf {slots : List Slot} (h : slotsOf name fields = .ok slots) :
    (slots.map fun slot => (slot.name, slot.field)) = fields := by
  induction fields generalizing slots with
  | nil =>
    obtain rfl := Except.ok.inj h
    rfl
  | cons entry rest ih =>
    cases hn : entry.2.slotSize? with
    | none =>
      rw [slotsOf_cons_of_none hn] at h
      cases h
    | some n =>
      rw [slotsOf_cons_of_some hn] at h
      cases hr : slotsOf name rest with
      | error fault =>
        rw [hr] at h
        cases h
      | ok more =>
        rw [hr] at h
        obtain rfl := Except.ok.inj h
        rw [List.map_cons, ih hr]

/-- The first field without a size for its slot is told. -/
theorem slotsOf_of_badSize {before after : List (String × Field)} {fieldName : String}
    {field : Field} (hb : ∀ entry ∈ before, (entry.2.slotSize?).isSome)
    (h : field.slotSize? = none) :
    slotsOf name (before ++ (fieldName, field) :: after) =
      .error (badSize name fieldName field) := by
  induction before with
  | nil => exact slotsOf_cons_of_none h after
  | cons entry rest ih =>
    obtain ⟨n, hn⟩ := Option.isSome_iff_exists.mp (hb entry List.mem_cons_self)
    have hrest := ih fun other hm => hb other (List.mem_cons_of_mem _ hm)
    rw [List.cons_append, slotsOf_cons_of_some hn, hrest]
    rfl

theorem define_of_slotsOf {order : ByteOrder} {items : Items Field} {slots : List Slot}
    (h : slotsOf name items.entries = .ok slots) :
    ∃ layout, define name order items = .ok layout ∧ layout.name = name ∧
      layout.order = order ∧ layout.slots = slots := by
  unfold define
  split
  · next hn => exact absurd (h.symm.trans hn) (by simp)
  · next slots' hn =>
    obtain rfl := Except.ok.inj (h.symm.trans hn)
    exact ⟨_, rfl, rfl, rfl, rfl⟩

/-- A layout that is defined has the fields and the byte order that were given. -/
theorem of_define {order : ByteOrder} {items : Items Field}
    (h : define name order items = .ok layout) :
    layout.name = name ∧ layout.order = order ∧ layout.fields.entries = items.entries := by
  unfold define at h
  split at h
  · cases h
  · next slots hn =>
    obtain rfl := Except.ok.inj h
    exact ⟨rfl, rfl, entries_of_slotsOf hn⟩

theorem define_eq_error {order : ByteOrder} {items : Items Field} {fault : Fault}
    (h : slotsOf name items.entries = .error fault) : define name order items = .error fault := by
  unfold define
  split
  · next hn =>
    obtain rfl := Except.error.inj (h.symm.trans hn)
    rfl
  · next hn => exact absurd (h.symm.trans hn) (by simp)

structure SameShape (layout other : Layout) : Prop where
  order : other.order = layout.order
  slots : other.slots = layout.slots

namespace SameShape

theorem size (h : layout.SameShape other) : other.size = layout.size := by
  rw [Layout.size, h.slots, ← Layout.size]

theorem placed (h : layout.SameShape other) : other.placed = layout.placed := by
  rw [Layout.placed, h.slots, ← Layout.placed]

theorem entries (h : layout.SameShape other) : other.fields.entries = layout.fields.entries := by
  simp only [Layout.fields, h.slots]

theorem symm (h : layout.SameShape other) : other.SameShape layout := ⟨h.order.symm, h.slots.symm⟩

theorem pack {value? : String → Option Value} {bytes : Bytes} (h : layout.SameShape other)
    (hp : layout.pack value? = .ok bytes) : other.pack value? = .ok bytes := by
  cases pack_eq_iff.mp hp with
  | packed complete small encoded length =>
    refine pack_eq_iff.mpr (.packed ?_ ?_ ?_ ?_)
    · rwa [Complete, names, h.slots]
    · rwa [h.size]
    · rwa [h.order, h.size, h.slots]
    · rw [length, h.size]

end SameShape

end ByteLayout.Layout
