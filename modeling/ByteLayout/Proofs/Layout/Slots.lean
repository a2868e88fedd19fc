import ByteLayout.Layout.Unpack
import ByteLayout.Proofs.Field.RoundTrip
import ByteLayout.Proofs.Field.Slot
import ByteLayout.Proofs.Layout.Outcome

/-! # Slots one after the other

A layout of built-in fields is packed slot by slot: no field touches the bytes of another. What
`Layout.pack` does in one buffer comes to writing each slot by itself, and what
`Layout.unpack` does to reading each slot by itself.
-/
namespace ByteLayout.Layout

def packEach (layout : Layout) (value? : String → Option Value) :
    List Slot → Except Fault Bytes
  | [] => .ok []
  | slot :: rest =>
    match value? slot.name with
    | none => .error (.bare .noKey)
    | some v =>
      match slot.field.write slot.size v layout.order with
      | .error fault => .error (fault.inField layout.name slot.name)
      | .ok raw => (packEach layout value? rest).map (padded slot.size raw ++ ·)

def unpackEach (order : ByteOrder) : List Slot → Bytes → Logged (List (String × Value))
  | [], _ => pure []
  | slot :: rest, bytes => do
    let v ← slot.field.read order (bytes.take slot.size)
    let more ← unpackEach order rest (bytes.drop slot.size)
    return (slot.name, v) :: more

section
variable {layout : Layout} {value? : String → Option Value}

/-- A built-in field writes its slot, which held zeros, and nothing else. -/
theorem packSlot_eq {slot : Slot} (hf : slot.field.BuiltIn) {before after : Bytes} {size : Nat}
    (hs : size = before.length + (slot.size + after.length)) (v : Value) :
    layout.packSlot size before.length slot v
        (before ++ (List.replicate slot.size 0 ++ after)) =
      match slot.field.write slot.size v layout.order with
      | .error fault => .error (fault.inField layout.name slot.name)
      | .ok raw => .ok (before ++ (padded slot.size raw ++ after)) := by
  have hb : (before ++ (List.replicate slot.size 0 ++ after)).length = size := by
    simp only [List.length_append, List.length_replicate, hs]
  have he := Field.encode_eq_patch hf slot.sized (o := before.length) (by rw [hb]; omega) v
    layout.order
  rw [packSlot, he]
  cases hw : slot.field.write slot.size v layout.order with
  | error fault => rfl
  | ok raw =>
    have hr := Field.length_write hf slot.sized hw
    have hle : before.length + raw.length ≤
        (before ++ (List.replicate slot.size 0 ++ after)).length := by
      rw [hb]
      omega
    have hp := length_patch hle
    simp only [Except.map, hp, hb, if_true]
    rw [patch_append before after (by rw [List.length_replicate]; exact hr), List.drop_replicate]
    rfl

/-- The slots that are left are still zeros, by induction on them. -/
theorem packSlots_eq {slots : List Slot} (hf : ∀ slot ∈ slots, slot.field.BuiltIn)
    (before after : Bytes) {size : Nat}
    (hs : size = before.length + (extent slots + after.length)) :
    layout.packSlots size value? (placedFrom before.length slots)
        (before ++ (List.replicate (extent slots) 0 ++ after)) =
      (layout.packEach value? slots).map fun bytes => before ++ (bytes ++ after) := by
  induction slots generalizing before with
  | nil => rfl
  | cons slot rest ih =>
    rw [placedFrom, packSlots, packEach]
    cases value? slot.name with
    | none => rfl
    | some v =>
      have hz : List.replicate (extent (slot :: rest)) (0 : UInt8) ++ after =
          List.replicate slot.size 0 ++ (List.replicate (extent rest) 0 ++ after) := by
        rw [extent_cons, ← List.append_assoc, List.replicate_append_replicate]
      rw [extent_cons, Nat.add_assoc] at hs
      have hl : size = before.length +
          (slot.size + (List.replicate (extent rest) (0 : UInt8) ++ after).length) := by
        rw [List.length_append, List.length_replicate, hs]
      simp only [hz]
      rw [packSlot_eq (hf slot List.mem_cons_self) hl]
      cases hw : slot.field.write slot.size v layout.order with
      | error fault => rfl
      | ok raw =>
        have hp := Field.length_padded_write (hf slot List.mem_cons_self) slot.sized hw
        have hl : (before ++ padded slot.size raw).length = before.length + slot.size := by
          rw [List.length_append, hp]
        have hr := ih (fun s h => hf s (List.mem_cons_of_mem _ h)) (before ++ padded slot.size raw)
          (by rw [hl, hs, Nat.add_assoc])
        rw [hl, List.append_assoc] at hr
        simp only [hr]
        cases layout.packEach value? rest with
        | error fault => rfl
        | ok bytes => simp only [Except.map, List.append_assoc]

theorem unpackSlots_eq {buffer : Bytes} {start : Nat} {slots : List Slot}
    (hf : ∀ slot ∈ slots, slot.field.BuiltIn) (o : Nat)
    (hb : start + o + extent slots ≤ buffer.length) :
    layout.unpackSlots buffer start (placedFrom o slots) =
      unpackEach layout.order slots (buffer.drop (start + o)) := by
  induction slots generalizing o with
  | nil => rfl
  | cons slot rest ih =>
    rw [extent_cons] at hb
    have hle : start + o + slot.size ≤ buffer.length := by omega
    have hd := Field.decode_eq_read (hf slot List.mem_cons_self) slot.sized hle layout.order
    have hr := ih (fun s h => hf s (List.mem_cons_of_mem _ h)) (o + slot.size) (by omega)
    rw [placedFrom, unpackSlots, unpackEach, ← Int.natCast_add, hd, hr, List.drop_drop,
      ← Nat.add_assoc]

theorem packEach_cons_eq_ok_iff {slot : Slot} {rest : List Slot} {bytes : Bytes} :
    layout.packEach value? (slot :: rest) = .ok bytes ↔
      ∃ v raw more, value? slot.name = some v ∧
        slot.field.write slot.size v layout.order = .ok raw ∧
        layout.packEach value? rest = .ok more ∧ bytes = padded slot.size raw ++ more := by
  rw [packEach]
  constructor
  · intro h
    cases hv : value? slot.name with
    | none =>
      rw [hv] at h
      cases h
    | some v =>
      cases hw : slot.field.write slot.size v layout.order with
      | error fault =>
        simp only [hv, hw] at h
        cases h
      | ok raw =>
        cases hr : layout.packEach value? rest with
        | error fault =>
          simp only [hv, hw, hr] at h
          cases h
        | ok more =>
          simp only [hv, hw, hr] at h
          exact ⟨v, raw, more, rfl, hw, rfl, (Except.ok.inj h).symm⟩
  · rintro ⟨v, raw, more, hv, hw, hr, rfl⟩
    simp only [hv, hw, hr]
    rfl

/-- Each slot of a packed layout was given a value that its field takes. -/
theorem exists_write_of_packEach {slots : List Slot} {bytes : Bytes}
    (h : layout.packEach value? slots = .ok bytes) :
    ∀ slot ∈ slots, ∃ v raw, value? slot.name = some v ∧
      slot.field.write slot.size v layout.order = .ok raw := by
  induction slots generalizing bytes with
  | nil => exact fun _ hm => absurd hm List.not_mem_nil
  | cons slot rest ih =>
    obtain ⟨v, raw, more, hv, hw, hr, -⟩ := packEach_cons_eq_ok_iff.mp h
    intro other hm
    rcases List.mem_cons.mp hm with rfl | hm
    · exact ⟨v, raw, hv, hw⟩
    · exact ih hr other hm

/-- A row of slots is packed when each of them is given a value that its field takes. -/
theorem exists_packEach_of_write {slots : List Slot}
    (h : ∀ slot ∈ slots, ∃ v raw, value? slot.name = some v ∧
      slot.field.write slot.size v layout.order = .ok raw) :
    ∃ bytes, layout.packEach value? slots = .ok bytes := by
  induction slots with
  | nil => exact ⟨[], rfl⟩
  | cons slot rest ih =>
    obtain ⟨v, raw, hv, hw⟩ := h slot List.mem_cons_self
    obtain ⟨more, hm⟩ := ih fun other hs => h other (List.mem_cons_of_mem _ hs)
    exact ⟨_, packEach_cons_eq_ok_iff.mpr ⟨v, raw, more, hv, hw, hm, rfl⟩⟩

theorem length_packEach {slots : List Slot} (hf : ∀ slot ∈ slots, slot.field.BuiltIn)
    {bytes : Bytes} (h : layout.packEach value? slots = .ok bytes) :
    bytes.length = extent slots := by
  induction slots generalizing bytes with
  | nil =>
    obtain rfl := Except.ok.inj h
    rfl
  | cons slot rest ih =>
    obtain ⟨v, raw, more, -, hw, hr, rfl⟩ := packEach_cons_eq_ok_iff.mp h
    have hslot := Field.length_padded_write (hf slot List.mem_cons_self) slot.sized hw
    have hrest := ih (fun other hm => hf other (List.mem_cons_of_mem _ hm)) hr
    rw [List.length_append, hslot, hrest, extent_cons]

theorem packEach_congr {given? : String → Option Value} {slots : List Slot}
    (h : ∀ slot ∈ slots, value? slot.name = given? slot.name) :
    layout.packEach value? slots = layout.packEach given? slots := by
  induction slots with
  | nil => rfl
  | cons slot rest ih =>
    have hslot := h slot List.mem_cons_self
    have hrest := ih fun other hm => h other (List.mem_cons_of_mem _ hm)
    rw [packEach, packEach, hslot, hrest]

theorem result_unpackEach_cons {order : ByteOrder} {slot : Slot} {rest : List Slot}
    {bytes : Bytes} {w : Value} {more : List (String × Value)}
    (hw : (slot.field.read order (bytes.take slot.size)).result = .ok w)
    (hr : (unpackEach order rest (bytes.drop slot.size)).result = .ok more) :
    (unpackEach order (slot :: rest) bytes).result = .ok ((slot.name, w) :: more) := by
  simp only [unpackEach, bind, Logged.bind, hw, hr]
  rfl

/-- When each field carries its value through its slot, so does the row of them. -/
theorem exists_packEach_of_carries {slots : List Slot} {back : Slot → Value}
    (h : ∀ slot ∈ slots, ∃ v, value? slot.name = some v ∧
      slot.field.Carries slot.size layout.order v (back slot))
    (hf : ∀ slot ∈ slots, slot.field.BuiltIn) :
    ∃ bytes, layout.packEach value? slots = .ok bytes ∧
      (unpackEach layout.order slots bytes).result =
        .ok (slots.map fun slot => (slot.name, back slot)) := by
  induction slots with
  | nil => exact ⟨[], rfl, rfl⟩
  | cons slot rest ih =>
    obtain ⟨v, hv, raw, hw, hread⟩ := h slot List.mem_cons_self
    obtain ⟨bytes, hp, hu⟩ := ih (fun s hs => h s (List.mem_cons_of_mem _ hs))
      (fun s hs => hf s (List.mem_cons_of_mem _ hs))
    have hlen := Field.length_padded_write (hf slot List.mem_cons_self) slot.sized hw
    refine ⟨padded slot.size raw ++ bytes, ?_, ?_⟩
    · simp only [packEach, hv, hw, hp]
      rfl
    · refine result_unpackEach_cons ?_ ?_
      · rwa [List.take_left' hlen]
      · rwa [List.drop_left' hlen]

def KnowsEach (order : ByteOrder) : List Slot → Bytes → Prop
  | [], _ => True
  | slot :: rest, bytes =>
    slot.field.Knows order (bytes.take slot.size) ∧ KnowsEach order rest (bytes.drop slot.size)

/-- The enumerations of a layout know what stands in their slots from the offset on. -/
def KnowsAt (layout : Layout) (b : Bytes) (o : Int) : Prop :=
  ∀ placed ∈ layout.placed, placed.2.field.Knows layout.order
    (slice b (o + placed.1) (o + placed.1 + placed.2.size))

theorem knowsEach_of_placedFrom {order : ByteOrder} {b : Bytes} {slots : List Slot} {o k : Nat}
    (h : ∀ placed ∈ placedFrom k slots, placed.2.field.Knows order
      (slice b ((o : Int) + placed.1) ((o : Int) + placed.1 + placed.2.size))) :
    KnowsEach order slots (b.drop (o + k)) := by
  induction slots generalizing k with
  | nil => trivial
  | cons slot rest ih =>
    obtain ⟨hfirst, hrest⟩ := List.forall_mem_cons.mp h
    rw [← Int.natCast_add, slice_eq_take_drop] at hfirst
    refine ⟨hfirst, ?_⟩
    rw [List.drop_drop, Nat.add_assoc]
    exact ih hrest

theorem KnowsAt.knowsEach {b : Bytes} {o : Nat} (h : layout.KnowsAt b o) :
    KnowsEach layout.order layout.slots (b.drop o) := knowsEach_of_placedFrom (k := 0) h

/-- When the fields settle, each of them carries what it has written, and what comes of it. -/
theorem exists_carries_of_packEach {slots : List Slot}
    (hf : ∀ slot ∈ slots, slot.field.IsSettling slot.size) {bytes : Bytes}
    (h : layout.packEach value? slots = .ok bytes) (hk : KnowsEach layout.order slots bytes) :
    ∀ slot ∈ slots, ∃ v w, value? slot.name = some v ∧
      slot.field.Carries slot.size layout.order v w ∧
      slot.field.Carries slot.size layout.order w w := by
  induction slots generalizing bytes with
  | nil => exact fun _ hm => absurd hm List.not_mem_nil
  | cons slot rest ih =>
    obtain ⟨hfirst, hrest⟩ := List.forall_mem_cons.mp hf
    obtain ⟨v, raw, more, hv, hw, hr, rfl⟩ := packEach_cons_eq_ok_iff.mp h
    have hlen := Field.length_padded_write hfirst.builtIn slot.sized hw
    obtain ⟨hknown, hknows⟩ := hk
    rw [List.take_left' hlen] at hknown
    rw [List.drop_left' hlen] at hknows
    intro other hm
    rcases List.mem_cons.mp hm with rfl | hm
    · obtain ⟨w, h1, h2⟩ := hfirst.exists_carries other.sized hw hknown
      exact ⟨v, w, hv, h1, h2⟩
    · exact ih hrest hr hknows other hm

/-- When each field writes what it reads, so does the row of them: from what the slots hold, if it
is known, come values, under their names, that give the same bytes. -/
theorem exists_unpackEach_of_lossless (order : ByteOrder) {slots : List Slot}
    (h : ∀ slot ∈ slots, slot.field.Lossless slot.size order) {bytes : Bytes}
    (hl : extent slots ≤ bytes.length) (hk : KnowsEach order slots bytes) :
    ∃ entries, (unpackEach order slots bytes).result = .ok entries ∧
      entries.map Prod.fst = slots.map Slot.name ∧
      ∀ (layout : Layout) (value? : String → Option Value), layout.order = order →
        (∀ entry ∈ entries, value? entry.1 = some entry.2) →
        layout.packEach value? slots = .ok (bytes.take (extent slots)) := by
  induction slots generalizing bytes with
  | nil => exact ⟨[], rfl, rfl, fun _ _ _ _ => rfl⟩
  | cons slot rest ih =>
    rw [extent_cons] at hl
    have hslot : (bytes.take slot.size).length = slot.size := by
      rw [List.length_take]
      omega
    obtain ⟨w, hr, hw⟩ := h slot List.mem_cons_self (bytes.take slot.size) hslot hk.1
    have hrest : extent rest ≤ (bytes.drop slot.size).length := by
      rw [List.length_drop]
      omega
    obtain ⟨more, hu, hn, hp⟩ := ih (fun s hs => h s (List.mem_cons_of_mem _ hs)) hrest hk.2
    refine ⟨(slot.name, w) :: more, result_unpackEach_cons hr hu, ?_, ?_⟩
    · rw [List.map_cons, List.map_cons, hn]
    · rintro layout value? rfl hv
      have hvalue := hv (slot.name, w) List.mem_cons_self
      have hrest := hp layout value? rfl fun entry he => hv entry (List.mem_cons_of_mem _ he)
      simp only [packEach, hvalue, hw, hrest]
      rw [padded_of_length hslot, Except.map, extent_cons, List.take_add]

/-- Where no value is missing and there is a buffer, packing a layout of built-in fields writes each
slot by itself. -/
theorem pack_eq_packEach (hf : ∀ slot ∈ layout.slots, slot.field.BuiltIn)
    (hs : layout.size < Value.lengthLimit) (hc : layout.Complete value?) :
    layout.pack value? = layout.packEach value? layout.slots := by
  have he : layout.packSlots layout.size value? layout.placed
      (List.replicate layout.size 0 ++ []) =
        (layout.packEach value? layout.slots).map fun bytes => bytes ++ [] :=
    packSlots_eq hf [] [] (Nat.zero_add _).symm
  simp only [List.append_nil] at he
  rw [pack, packWithin, missing_eq_nil_iff.mpr hc]
  dsimp only
  rw [if_neg (Nat.not_le_of_lt hs), he]
  cases layout.packEach value? layout.slots <;> rfl

/-- Packing a layout of built-in fields. -/
theorem pack_eq_ok_iff (hf : ∀ slot ∈ layout.slots, slot.field.BuiltIn) {bytes : Bytes} :
    layout.pack value? = .ok bytes ↔
      layout.size < Value.lengthLimit ∧ layout.packEach value? layout.slots = .ok bytes := by
  constructor
  · intro h
    cases pack_eq_iff.mp h with
    | packed complete small =>
      rw [pack_eq_packEach hf small complete] at h
      exact ⟨small, h⟩
  · rintro ⟨small, h⟩
    have hc : layout.Complete value? := fun name hn => by
      obtain ⟨slot, hs, rfl⟩ := List.mem_map.mp hn
      obtain ⟨v, -, hv, -⟩ := exists_write_of_packEach h slot hs
      rw [hv]
      rfl
    rwa [pack_eq_packEach hf small hc]

/-- Unpacking a layout of built-in fields. -/
theorem result_unpack (hf : ∀ slot ∈ layout.slots, slot.field.BuiltIn) {buffer : Bytes}
    {o : Nat} (hb : o + layout.size ≤ buffer.length) {entries : List (String × Value)}
    (h : (unpackEach layout.order layout.slots (buffer.drop o)).result = .ok entries) :
    (layout.unpack buffer o).result = .ok (Items.ofList entries) := by
  have hu : layout.unpackSlots buffer o (placedFrom 0 layout.slots) =
      unpackEach layout.order layout.slots (buffer.drop o) := unpackSlots_eq hf 0 hb
  have hc : (0 : Int) ≤ o ∧ (o : Int) + layout.size ≤ buffer.length := by omega
  unfold unpack unpackWithin
  rw [if_pos hc, Int.toNat_natCast]
  simp only [placed, hu, bind, Logged.bind, h]
  rfl

end

end ByteLayout.Layout
