import ByteLayout.Gpt.Layouts
import ByteLayout.Proofs.Layout.Slots
import Mathlib.Tactic.Choose

/-! # Round trips of whole layouts

Packing and unpacking undo one another: unpacking gives back representable values, packing
gives back the bytes of a layout whose fields lose nothing, and in one pass a layout of built-in
fields makes of any values that it takes some that stay as they are. An enumeration may have an
answer of its own for an integer that no member has; nothing is said of a slot that holds one.
-/
namespace ByteLayout.Layout
variable {layout : Layout}

/-- The values that are read are found under the names of their slots. -/
theorem get?_ofList_slots (back : Slot → Value) {slot : Slot} (hs : slot ∈ layout.slots) :
    (Items.ofList (layout.slots.map fun slot => (slot.name, back slot))).get? slot.name =
      some (back slot) := by
  have hn : ((layout.slots.map fun slot => (slot.name, back slot)).map Prod.fst).Nodup := by
    rw [List.map_map]
    exact layout.distinct
  have he := Items.entries_ofList _ hn
  have hm : (slot.name, back slot) ∈
      (Items.ofList (layout.slots.map fun slot => (slot.name, back slot))).entries := by
    rw [he]
    exact List.mem_map_of_mem hs
  exact Items.get?_of_mem _ hm

theorem names_ofList_slots (back : Slot → Value) :
    (Items.ofList (layout.slots.map fun slot => (slot.name, back slot))).names = layout.names := by
  have hn : ((layout.slots.map fun slot => (slot.name, back slot)).map Prod.fst).Nodup := by
    rw [List.map_map]
    exact layout.distinct
  rw [Items.names, Items.entries_ofList _ hn, List.map_map]
  rfl

/-- When each field carries its value, the layout can be packed and is read as those values. -/
theorem exists_pack_of_carries {value? : String → Option Value} (back : Slot → Value)
    (hsize : layout.size < Value.lengthLimit) (hf : ∀ slot ∈ layout.slots, slot.field.BuiltIn)
    (h : ∀ slot ∈ layout.slots, ∃ v, value? slot.name = some v ∧
      slot.field.Carries slot.size layout.order v (back slot)) :
    ∃ bytes, layout.pack value? = .ok bytes ∧ bytes.length = layout.size ∧
      (layout.unpack bytes 0).result =
        .ok (Items.ofList (layout.slots.map fun slot => (slot.name, back slot))) := by
  obtain ⟨bytes, hp, hu⟩ := exists_packEach_of_carries h hf
  have hl := length_packEach hf hp
  refine ⟨bytes, (pack_eq_ok_iff hf).mpr ⟨hsize, hp⟩, hl, ?_⟩
  exact result_unpack hf (o := 0) (by rw [hl, Nat.zero_add]; exact Nat.le_refl _) hu

/-- Representable values come back, under the declared names in their order. -/
theorem exists_unpack_pack_of_represents {value? : String → Option Value}
    (hsize : layout.size < Value.lengthLimit)
    (h : ∀ slot ∈ layout.slots, ∃ v w, value? slot.name = some v ∧
      slot.field.Represents slot.size v w) :
    ∃ bytes items, layout.pack value? = .ok bytes ∧ bytes.length = layout.size ∧
      (layout.unpack bytes 0).result = .ok items ∧ items.names = layout.names ∧
      ∀ slot ∈ layout.slots, ∃ v w, value? slot.name = some v ∧ items.get? slot.name = some w ∧
        slot.field.Represents slot.size v w ∧ Value.equal w v = true := by
  choose! v back hv hr using h
  have hf : ∀ slot ∈ layout.slots, slot.field.BuiltIn := fun slot hs => (hr slot hs).builtIn
  obtain ⟨bytes, hp, hl, hu⟩ := exists_pack_of_carries back hsize hf fun slot hs =>
    ⟨v slot, hv slot hs, (hr slot hs).carries slot.sized⟩
  refine ⟨bytes, _, hp, hl, hu, names_ofList_slots back, fun slot hs => ?_⟩
  exact ⟨v slot, back slot, hv slot hs, get?_ofList_slots back hs, hr slot hs, (hr slot hs).equal⟩

def shades : Enumeration where
  tag := ⟨0, "Shade", true⟩
  members := [("dark", .int (-1)), ("light", .int 300)]
  aliases := []

def labelLayout : Layout where
  name := .ofString "Label"
  order := .big
  slots :=
    [⟨"shade", .int16 (some shades), 2, rfl⟩,
      ⟨"key", .bytes (.int 2), 2, rfl⟩,
      ⟨"title", .string ⟨.int 4, .ofString "latin-1", true⟩, 4, rfl⟩]
  distinct := by decide

def labelValues (name : String) : Option Value :=
  [("title", Value.ofString "menu"), ("shade", .member shades.tag "dark" (.int (-1))),
    ("key", .bytes [1, 2]), ("note", .none)].lookup name

theorem exists_unpack_pack_label :
    ∃ bytes items, labelLayout.pack labelValues = .ok bytes ∧ bytes.length = labelLayout.size ∧
      (labelLayout.unpack bytes 0).result = .ok items ∧ items.names = labelLayout.names ∧
      ∀ slot ∈ labelLayout.slots, ∃ v w, labelValues slot.name = some v ∧
        items.get? slot.name = some w ∧ slot.field.Represents slot.size v w ∧
        Value.equal w v = true := by
  refine exists_unpack_pack_of_represents (by decide) fun slot hs => ?_
  simp only [labelLayout, List.mem_cons, List.not_mem_nil, or_false] at hs
  rcases hs with rfl | rfl | rfl
  · exact ⟨_, _, rfl, .member rfl rfl rfl⟩
  · exact ⟨_, _, rfl, .bytes rfl rfl⟩
  · exact ⟨_, _, rfl, .string rfl rfl rfl⟩

/-- The enumeration refuses what none of its members is worth, and not as a bad value. -/
def ruled : Enumeration where
  tag := ⟨0, "Ruled", false⟩
  members := [("on", .int 2)]
  aliases := []
  missing _ := .error (.bare .wrongType)

def yielding : Enumeration :=
  { ruled with missing := fun _ => .ok (.member ruled.tag "on" (.int 2)) }

def switchLayout (members : Enumeration) : Layout where
  name := .ofString "Switch"
  order := .little
  slots := [⟨"state", .uint8 (some members), 1, rfl⟩, ⟨"rest", .bits (.int 2), 2, rfl⟩]
  distinct := show (["state", "rest"] : List String).Nodup by decide

def switchValues (name : String) : Option Value :=
  [("state", Value.int 7), ("rest", .int 0)].lookup name

def scrollLayout : Layout where
  name := .ofString "Scroll"
  order := .big
  slots :=
    [⟨"text", .cstring ⟨⟨.int Value.lengthLimit, .ofString "utf-8", false⟩, .utf8 false, rfl, by
        intro n _ hn
        exact hn⟩, Value.lengthLimit, by decide⟩]
  distinct := by decide

def scrollValues (name : String) : Option Value := [("text", Value.text [])].lookup name

/-- An integer that no member has may be packed and not unpacked, and representable values are not
packed where there is no buffer for them. -/
theorem unpack_pack_loses :
    (ruled.IsIntValued ∧ ruled.find? (.int 7) = none ∧ Code.inRange false 1 7 = true ∧
      ∃ bytes, (switchLayout ruled).pack switchValues = .ok bytes ∧
        ((switchLayout ruled).unpack bytes 0).result = .error (.bare .wrongType)) ∧
    (∀ slot ∈ scrollLayout.slots, ∃ v w, scrollValues slot.name = some v ∧
      slot.field.Represents slot.size v w) ∧
    scrollLayout.pack scrollValues = .error (.bare .tooLarge) := by
  refine ⟨⟨by unfold Enumeration.IsIntValued; decide, rfl, rfl, _, rfl, rfl⟩, ?_, ?_⟩
  · intro slot hs
    obtain rfl := List.mem_singleton.mp hs
    exact ⟨.text [], .text [], rfl, .cstring List.not_mem_nil rfl (Nat.zero_le _)⟩
  · have complete : scrollLayout.Complete scrollValues := by
      intro name hn
      obtain rfl := List.mem_singleton.mp hn
      rfl
    exact pack_eq_iff.mpr (.tooLarge complete (by decide))

/-- The bytes that are unpacked of lossless fields are packed again. -/
theorem exists_unpack_of_lossless (hsize : layout.size < Value.lengthLimit)
    (h : ∀ slot ∈ layout.slots, slot.field.IsLossless) {b : Bytes} {o : Nat}
    (hb : o + layout.size ≤ b.length) (hk : layout.KnowsAt b o) :
    ∃ items, (layout.unpack b o).result = .ok items ∧
      layout.pack items.get? = .ok (slice b o ((o : Int) + layout.size)) := by
  have hf : ∀ slot ∈ layout.slots, slot.field.BuiltIn := fun slot hs => (h slot hs).builtIn
  have hrest : extent layout.slots ≤ (b.drop o).length := by
    rw [List.length_drop]
    exact Nat.le_sub_of_add_le' hb
  obtain ⟨entries, hu, hn, hp⟩ := exists_unpackEach_of_lossless layout.order
    (fun slot hs => (h slot hs).lossless slot.sized) hrest hk.knowsEach
  have hd : (entries.map Prod.fst).Nodup := hn ▸ layout.distinct
  refine ⟨_, result_unpack hf hb hu, (pack_eq_ok_iff hf).mpr ⟨hsize, ?_⟩⟩
  rw [slice_eq_take_drop]
  refine hp layout _ rfl fun entry he => ?_
  rw [← Items.entries_ofList entries hd] at he
  exact Items.get?_of_mem _ he

theorem isLossless_headerLayout :
    ∀ slot ∈ Gpt.headerLayout.slots, slot.field.IsLossless := by
  intro slot hs
  simp only [Gpt.headerLayout, List.mem_cons, List.not_mem_nil, or_false] at hs
  rcases hs with rfl | rfl | rfl | rfl | rfl | rfl | rfl | rfl | rfl | rfl | rfl | rfl | rfl | rfl
  all_goals first
    | exact .bytes _
    | exact .integer_none ..

theorem knowsAt_headerLayout (b : Bytes) (o : Int) : Gpt.headerLayout.KnowsAt b o := by
  intro place hm
  simp only [placed, placedFrom, Gpt.headerLayout, List.mem_cons, List.not_mem_nil, or_false] at hm
  rcases hm with rfl | rfl | rfl | rfl | rfl | rfl | rfl | rfl | rfl | rfl | rfl | rfl | rfl | rfl
  all_goals trivial

/-- The record of a buffer is turned into the bytes that it was unpacked from. -/
theorem toBuffer_unpack_of_lossless :
    (∀ (layout : Layout), layout.size < Value.lengthLimit →
      (∀ slot ∈ layout.slots, slot.field.IsLossless) →
      ∀ (cls : RecordClass Value) (b : Bytes) (o : Int), 0 ≤ o → o + layout.size ≤ b.length →
        layout.KnowsAt b o →
        ∃ items record, (layout.unpack b o).result = .ok items ∧
          Record.create cls (some layout) items = .ok record ∧
          record.toBuffer = .ok (slice b o (o + layout.size))) ∧
    ∀ b : Bytes, b.length = 92 → ∃ items, (Gpt.headerLayout.unpack b 0).result = .ok items ∧
      Gpt.headerLayout.pack items.get? = .ok b := by
  constructor
  · intro layout hsize h cls b o h0 hb hk
    obtain ⟨o, rfl⟩ := Int.eq_ofNat_of_zero_le h0
    obtain ⟨items, hu, hp⟩ := exists_unpack_of_lossless hsize h (b := b) (o := o) (by omega) hk
    exact ⟨items, _, hu, rfl, hp⟩
  · intro b hb
    have hs : Gpt.headerLayout.size = b.length := Gpt.size_headerLayout.trans hb.symm
    obtain ⟨items, hu, hp⟩ := exists_unpack_of_lossless (by decide) isLossless_headerLayout
      (b := b) (o := 0) (by omega) (knowsAt_headerLayout b 0)
    refine ⟨items, hu, ?_⟩
    rwa [slice_eq_take_drop, List.drop_zero, hs, List.take_length] at hp

theorem knowsAt_labelLayout (b : Bytes) (o : Int) : labelLayout.KnowsAt b o := by
  intro place hm
  simp only [placed, placedFrom, labelLayout, List.mem_cons, List.not_mem_nil, or_false] at hm
  rcases hm with rfl | rfl | rfl
  · exact fun v _ => Enumeration.knows_of_plain (fun _ => rfl) v
  · trivial
  · trivial

theorem toBuffer_unpack_label :
    ∃ items record,
      (labelLayout.unpack [0, 1, 44, 9, 8, 77, 101, 110, 252, 0] 1).result = .ok items ∧
        Record.create RecordClass.base (some labelLayout) items = .ok record ∧
        record.toBuffer = .ok [1, 44, 9, 8, 77, 101, 110, 252] := by
  have hlossless : ∀ slot ∈ labelLayout.slots, slot.field.IsLossless := by
    intro slot hs
    simp only [labelLayout, List.mem_cons, List.not_mem_nil, or_false] at hs
    rcases hs with rfl | rfl | rfl
    · refine .integer _ _ _ _ _ fun e he => ?_
      obtain rfl := Option.some.inj he
      unfold Enumeration.IsIntValued
      decide
    · exact .bytes _
    · exact .latin1 _ rfl
  exact toBuffer_unpack_of_lossless.1 labelLayout (by decide) hlossless RecordClass.base
    [0, 1, 44, 9, 8, 77, 101, 110, 252, 0] 1 (by decide) (by decide) (knowsAt_labelLayout _ _)

theorem isLossless_switchLayout {e : Enumeration} (he : e.IsIntValued) :
    ∀ slot ∈ (switchLayout e).slots, slot.field.IsLossless := by
  intro slot hs
  simp only [switchLayout, List.mem_cons, List.not_mem_nil, or_false] at hs
  rcases hs with rfl | rfl
  · exact .integer _ _ _ _ _ fun other ho => Option.some.inj ho ▸ he
  · exact .bits _

/-- Of an integer that no member has there may be no record, or one of other bytes. -/
theorem toBuffer_unpack_loses :
    (∀ slot ∈ (switchLayout ruled).slots ++ (switchLayout yielding).slots,
      slot.field.IsLossless) ∧
    ((switchLayout ruled).unpack [7, 8, 9] 0).result = .error (.bare .wrongType) ∧
    ∃ items record, ((switchLayout yielding).unpack [7, 8, 9] 0).result = .ok items ∧
      Record.create RecordClass.base (some (switchLayout yielding)) items = .ok record ∧
      record.toBuffer = .ok [2, 8, 9] := by
  have hint : ruled.IsIntValued := by
    unfold Enumeration.IsIntValued
    decide
  refine ⟨fun slot hs => ?_, rfl, _, _, rfl, rfl, rfl⟩
  rcases List.mem_append.mp hs with hs | hs
  · exact isLossless_switchLayout hint slot hs
  · exact isLossless_switchLayout (e := yielding) hint slot hs

/-- What was packed once is unpacked as a record that can be packed again, and of these bytes the
same record is unpacked. -/
theorem unpack_pack_settles {value? : String → Option Value} {bytes : Bytes}
    (hf : ∀ slot ∈ layout.slots, slot.field.IsSettling slot.size)
    (h : layout.pack value? = .ok bytes) (hk : layout.KnowsAt bytes 0) (cls : RecordClass Value) :
    ∃ items record bytes', (layout.unpack bytes 0).result = .ok items ∧
      Record.create cls (some layout) items = .ok record ∧ record.toBuffer = .ok bytes' ∧
      (layout.unpack bytes' 0).result = .ok items := by
  have hb : ∀ slot ∈ layout.slots, slot.field.BuiltIn := fun slot hs => (hf slot hs).builtIn
  obtain ⟨hsize, hpacked⟩ := (pack_eq_ok_iff hb).mp h
  have hc := exists_carries_of_packEach hf hpacked (KnowsAt.knowsEach (o := 0) hk)
  choose! v back hv h1 h2 using hc
  obtain ⟨packed, hp, -, hu⟩ := exists_pack_of_carries back hsize hb fun slot hs =>
    ⟨v slot, hv slot hs, h1 slot hs⟩
  obtain rfl : packed = bytes := Except.ok.inj (hp.symm.trans h)
  obtain ⟨bytes', hp', -, hu'⟩ := exists_pack_of_carries back hsize hb fun slot hs =>
    ⟨back slot, get?_ofList_slots back hs, h2 slot hs⟩
  exact ⟨_, _, bytes', hu, rfl, hp', hu'⟩

def noteLayout : Layout where
  name := .ofString "Note"
  order := .little
  slots :=
    [⟨"title", .string ⟨.int 6, .ofString "utf-16", false⟩, 6, rfl⟩,
      ⟨"count", .int8 none, 1, rfl⟩]
  distinct := by decide

def noteValues (name : String) : Option Value :=
  [("title", Value.text [0x61, 0x1F600]), ("count", .bool true)].lookup name

/-- The second character of the title is cut between its surrogates. -/
theorem unpack_pack_note :
    ∃ items record bytes', (noteLayout.unpack [0xFF, 0xFE, 0x61, 0, 0x3D, 0xD8, 1] 0).result =
        .ok items ∧
      Record.create RecordClass.base (some noteLayout) items = .ok record ∧
      record.toBuffer = .ok bytes' ∧ (noteLayout.unpack bytes' 0).result = .ok items := by
  have hp : noteLayout.pack noteValues = .ok [0xFF, 0xFE, 0x61, 0, 0x3D, 0xD8, 1] := rfl
  refine unpack_pack_settles (fun slot hs => ?_) hp (fun place hm => ?_) RecordClass.base
  · simp only [noteLayout, List.mem_cons, List.not_mem_nil, or_false] at hs
    rcases hs with rfl | rfl
    · exact .string _ (.utf16 none) rfl (by decide)
    · exact .lossless (.integer_none ..)
  · simp only [placed, placedFrom, noteLayout, List.mem_cons, List.not_mem_nil,
      or_false] at hm
    rcases hm with rfl | rfl
    all_goals trivial

/-- What was packed of an integer that no member has need not be unpacked again. -/
theorem unpack_pack_unsettled :
    (∀ slot ∈ (switchLayout ruled).slots, slot.field.IsSettling slot.size) ∧
    ∃ bytes, (switchLayout ruled).pack switchValues = .ok bytes ∧
      ((switchLayout ruled).unpack bytes 0).result = .error (.bare .wrongType) := by
  refine ⟨fun slot hs => .lossless (isLossless_switchLayout ?_ slot hs), _, rfl, rfl⟩
  unfold Enumeration.IsIntValued
  decide

end ByteLayout.Layout
