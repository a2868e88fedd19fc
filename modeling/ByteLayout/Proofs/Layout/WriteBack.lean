import ByteLayout.Proofs.Field.TakenBack
import ByteLayout.Proofs.Layout.Window

/-! # Records written back as they were read

A record that has just been unpacked is packed into as many bytes again, unless one of its values
is refused by its own field. The first that is decides what is told.
-/
namespace ByteLayout.Layout

def firstRefusal? (order : ByteOrder) (window : Nat × Slot → Bytes) (slots : List (Nat × Slot)) :
    Option (String × Fault) :=
  slots.findSome? fun placed =>
    (placed.2.field.refusal? order placed.2.size (window placed)).map (placed.2.name, ·)

def refusal? (layout : Layout) (b : Bytes) (o : Int) : Option (String × Fault) :=
  firstRefusal? layout.order
    (fun placed => slice b (o + placed.1) (o + placed.1 + placed.2.size)) layout.placed

section
variable {layout : Layout} {value? : String → Option Value}

structure IsRead (layout : Layout) (value? : String → Option Value) (slot : Slot) (bytes : Bytes)
    (v : Value) : Prop where
  builtIn : slot.field.BuiltIn
  intMembers : slot.field.HasIntMembers
  given : value? slot.name = some v
  full : bytes.length = slot.size
  read : (slot.field.read layout.order bytes).result = .ok v

/-- Slots that have read their values are written up to the first that refuses its own. -/
theorem packEach_of_isRead {slots : List (Nat × Slot)} {window : Nat × Slot → Bytes}
    (h : ∀ placed ∈ slots, ∃ v, layout.IsRead value? placed.2 (window placed) v) :
    match firstRefusal? layout.order window slots with
    | none => ∃ bytes, layout.packEach value? (slots.map Prod.snd) = .ok bytes ∧
        bytes.length = extent (slots.map Prod.snd)
    | some (name, fault) => layout.packEach value? (slots.map Prod.snd) =
        .error (fault.inField layout.name name) := by
  induction slots with
  | nil => exact ⟨[], rfl, rfl⟩
  | cons placed rest ih =>
    obtain ⟨v, hread⟩ := h placed List.mem_cons_self
    have hrest := ih fun p hp => h p (List.mem_cons_of_mem _ hp)
    have hw := Field.write_of_read hread.builtIn hread.intMembers placed.2.sized hread.full
      hread.read
    rw [firstRefusal?, List.findSome?_cons, ← firstRefusal?, List.map_cons, packEach]
    simp only [hread.given]
    cases hr : placed.2.field.refusal? layout.order placed.2.size (window placed) with
    | some refusal =>
      rw [hr] at hw
      obtain ⟨fault, hw, hfault⟩ := hw
      simp only [Option.map_some, hw]
      rw [hfault layout.name placed.2.name]
    | none =>
      rw [hr] at hw
      obtain ⟨raw, hw⟩ := hw
      simp only [Option.map_none, hw]
      cases hfirst : firstRefusal? layout.order window rest with
      | none =>
        rw [hfirst] at hrest
        obtain ⟨bytes, hp, hl⟩ := hrest
        refine ⟨padded placed.2.size raw ++ bytes, by rw [hp]; rfl, ?_⟩
        have hraw := Field.length_padded_write hread.builtIn placed.2.sized hw
        rw [List.length_append, hraw, hl, extent_cons]
      | some refused =>
        rw [hfirst] at hrest
        dsimp only at hrest ⊢
        rw [hrest]
        rfl

end

/-- What becomes of a record of built-in fields that is packed as it was unpacked: it has the size
of the layout, unless a value is refused, which is told of the first that is. -/
theorem toBuffer_of_unpack {layout : Layout} (hsize : layout.size < Value.lengthLimit)
    (hf : ∀ slot ∈ layout.slots, slot.field.BuiltIn)
    (hm : ∀ slot ∈ layout.slots, slot.field.HasIntMembers) (cls : RecordClass Value) {b : Bytes}
    {o : Int} {items : Items Value} (h : (layout.unpack b o).result = .ok items) :
    ∃ record, Record.create cls (some layout) items = .ok record ∧
      match layout.refusal? b o with
      | none => ∃ bytes, record.toBuffer = .ok bytes ∧ bytes.length = layout.size
      | some (name, fault) =>
        record.toBuffer = .error (fault.inField layout.name name) := by
  have hinside : 0 ≤ o ∧ o + layout.size ≤ b.length := by
    by_contra hb
    rw [unpack_of_outside hb] at h
    cases h
  obtain ⟨o, rfl⟩ := Int.eq_ofNat_of_zero_le hinside.1
  have hb : o + layout.size ≤ b.length := by omega
  refine ⟨_, rfl, ?_⟩
  have hread : ∀ placed ∈ layout.placed, ∃ v, layout.IsRead items.get? placed.2
      (slice b (o + placed.1) (o + placed.1 + placed.2.size)) v := by
    intro placed hp
    obtain ⟨hs, hle⟩ := le_of_mem_placed hp
    have hslot : o + placed.1 + placed.2.size ≤ b.length := by omega
    obtain ⟨v, hv, hd⟩ := get?_of_unpack hb h hp
    rw [Field.decode_eq_read (hf _ hs) placed.2.sized hslot] at hd
    rw [← Int.natCast_add, slice_eq_take_drop]
    exact ⟨v, hf _ hs, hm _ hs, hv, length_take_drop hslot, hd⟩
  have hcomplete : layout.Complete items.get? := by
    intro name hn
    rw [← names_placed] at hn
    obtain ⟨placed, hp, rfl⟩ := List.mem_map.mp hn
    obtain ⟨v, hv⟩ := hread placed hp
    rw [hv.given]
    rfl
  have hpack : layout.pack items.get? =
      layout.packEach items.get? (layout.placed.map Prod.snd) := by
    rw [pack_eq_packEach hf hsize hcomplete, placed, map_snd_placedFrom]
  have hend := packEach_of_isRead hread
  rw [← hpack, placed, map_snd_placedFrom] at hend
  exact hend

theorem refusal?_number {name : String} {format : Format} {members : Option Enumeration} {n : Nat}
    {order : ByteOrder} {slot : Bytes} (hn : (Field.number name format members).slotSize? = some n)
    (hl : slot.length = n) (hk : (Field.number name format members).Knows order slot) :
    (Field.number name format members).refusal? order n slot = none := by
  unfold Field.refusal?
  split
  · next signed width e heq =>
    cases heq
    obtain rfl := Field.width_eq hn
    rcases (Field.knows_integer_iff hl).mp hk e rfl with hfound | ⟨fault, hlook, -⟩
    · obtain ⟨w, hw⟩ := Option.isSome_iff_exists.mp hfound
      simp only [hw]
    · simp only [hlook]
      cases e.find? _ <;> rfl
  all_goals first | rfl | contradiction

/-- What enumerations know is written back, and so are texts that are neither strict nor in ASCII,
whatever they were read from. -/
theorem refusal?_eq_none {layout : Layout}
    (hs : ∀ slot ∈ layout.slots, ∀ shape, slot.field = .string shape →
      shape.strict = false ∧ shape.findEncoding ≠ .ok .ascii)
    (ht : ∀ slot ∈ layout.slots, ∀ shape, slot.field = .cstring shape →
      shape.strict = false ∧ shape.encoding ≠ .ascii) {b : Bytes} {o : Nat}
    (hb : o + layout.size ≤ b.length) (hk : layout.KnowsAt b o) :
    layout.refusal? b o = none := by
  rw [refusal?, firstRefusal?, List.findSome?_eq_none_iff]
  intro placed hp
  obtain ⟨hm, hle⟩ := le_of_mem_placed hp
  rw [Option.map_eq_none_iff]
  cases hfield : placed.2.field with
  | number name format members =>
    have hn := placed.2.sized
    have hknown := hk placed hp
    have hl : (slice b ((o : Int) + placed.1) (o + placed.1 + placed.2.size)).length =
        placed.2.size := by
      rw [← Int.natCast_add, slice_eq_take_drop]
      exact length_take_drop (by omega)
    rw [hfield] at hn hknown
    exact refusal?_number hn hl hknown
  | string shape =>
    obtain ⟨hstrict, hascii⟩ := hs _ hm shape hfield
    simp only [Field.refusal?]
    split
    · next encoding hk =>
      have he : encoding ≠ .ascii := fun he => hascii (he ▸ hk)
      simp [TextShape.refusal?, he, hstrict]
    · rfl
  | cstring shape =>
    obtain ⟨hstrict, hascii⟩ := ht _ hm shape hfield
    simp [Field.refusal?, TextShape.refusal?, hascii, hstrict]
  | _ => rfl

def badgeLayout : Layout where
  name := .ofString "Badge"
  order := .big
  slots :=
    [⟨"role", .uint16 (some shades), 2, rfl⟩,
      ⟨"code", .string ⟨.int 2, .ofString "ascii", false⟩, 2, rfl⟩,
      ⟨"owner", .cstring ⟨⟨.int 3, .ofString "utf-8", true⟩, .utf8 false, rfl, by
        intro n h _
        cases h
        decide⟩, 3, rfl⟩]
  distinct := by decide

theorem builtIn_badgeLayout : ∀ slot ∈ badgeLayout.slots, slot.field.BuiltIn := by
  intro slot hs
  simp only [badgeLayout, List.mem_cons, List.not_mem_nil, or_false] at hs
  rcases hs with rfl | rfl | rfl
  · exact .integer ..
  · exact .string _ .ascii rfl
  · exact .cstring _

theorem hasIntMembers_badgeLayout : ∀ slot ∈ badgeLayout.slots, slot.field.HasIntMembers := by
  intro slot hs
  simp only [badgeLayout, List.mem_cons, List.not_mem_nil, or_false] at hs
  rcases hs with rfl | rfl | rfl
  · show ∀ member ∈ shades.members, member.2.isInt = true
    decide
  · trivial
  · trivial

/-- A record that is written back, and one of which two texts are refused. -/
theorem toBuffer_badge :
    (∃ items record, (badgeLayout.unpack [1, 44, 65, 66, 67, 0, 9] 0).result = .ok items ∧
      Record.create RecordClass.base (some badgeLayout) items = .ok record ∧
      ∃ bytes, record.toBuffer = .ok bytes ∧ bytes.length = badgeLayout.size) ∧
    ∃ items record, (badgeLayout.unpack [7, 1, 44, 65, 128, 67, 68, 69] 1).result = .ok items ∧
      Record.create RecordClass.base (some badgeLayout) items = .ok record ∧
      record.toBuffer =
        .error (.layout .pack [.ofString "Badge", .ofString "code"] .unworded) := by
  have hback := toBuffer_of_unpack (by decide) builtIn_badgeLayout hasIntMembers_badgeLayout
    RecordClass.base (b := [1, 44, 65, 66, 67, 0, 9]) (o := 0) rfl
  have hrefused := toBuffer_of_unpack (by decide) builtIn_badgeLayout hasIntMembers_badgeLayout
    RecordClass.base (b := [7, 1, 44, 65, 128, 67, 68, 69]) (o := 1) rfl
  obtain ⟨record, hr, hb⟩ := hback
  obtain ⟨record', hr', hb'⟩ := hrefused
  exact ⟨⟨_, record, rfl, hr, hb⟩, _, record', rfl, hr', hb'⟩

/-- What is missing is taken for a member whose value a byte cannot hold. -/
def defaulting : Enumeration where
  tag := ⟨0, "Kind", true⟩
  members := [("unknown", .int (-1))]
  aliases := []
  missing _ := .ok (.member ⟨0, "Kind", true⟩ "unknown" (.int (-1)))

/-- Not every record that is unpacked can be packed: a byte that is no character of ASCII was
replaced by one that is none either, a text without a zero byte leaves no room for one, and the
member that stands for what is missing has no place in the slot. -/
theorem toBuffer_fails :
    ((∀ slot ∈ badgeLayout.slots ++ (switchLayout defaulting).slots,
        slot.field.BuiltIn ∧ slot.field.HasIntMembers) ∧
      badgeLayout.size + (switchLayout defaulting).size < Value.lengthLimit) ∧
    (∃ items record, (badgeLayout.unpack [1, 44, 65, 128, 67, 0, 9] 0).result = .ok items ∧
      Record.create RecordClass.base (some badgeLayout) items = .ok record ∧
      record.toBuffer = .error (.layout .pack [.ofString "Badge", .ofString "code"] .unworded)) ∧
    (∃ items record, (badgeLayout.unpack [1, 44, 65, 66, 67, 68, 69] 0).result = .ok items ∧
      Record.create RecordClass.base (some badgeLayout) items = .ok record ∧
      record.toBuffer = .error (.layout .pack [.ofString "Badge", .ofString "owner"]
        (.textTooLong 3 (.int 2)))) ∧
    ∃ items record, ((switchLayout defaulting).unpack [7, 8, 9] 0).result = .ok items ∧
      Record.create RecordClass.base (some (switchLayout defaulting)) items = .ok record ∧
      record.toBuffer =
        .error (.layout .pack [.ofString "Switch", .ofString "state"] .unworded) := by
  have hint : defaulting.IsIntValued := by
    unfold Enumeration.IsIntValued
    decide
  refine ⟨⟨fun slot hs => ?_, by decide⟩, ⟨_, _, rfl, rfl, rfl⟩, ⟨_, _, rfl, rfl, rfl⟩,
    _, _, rfl, rfl, rfl⟩
  rcases List.mem_append.mp hs with hs | hs
  · exact ⟨builtIn_badgeLayout slot hs, hasIntMembers_badgeLayout slot hs⟩
  · refine ⟨builtIn_switchLayout defaulting slot hs, ?_⟩
    simp only [switchLayout, List.mem_cons, List.not_mem_nil, or_false] at hs
    rcases hs with rfl | rfl
    · exact hint
    · trivial

end ByteLayout.Layout
