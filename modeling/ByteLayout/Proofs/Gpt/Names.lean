import ByteLayout.Proofs.Gpt.Layouts
import ByteLayout.Proofs.Layout.Composition
import ByteLayout.Proofs.Text.Surrogates
import Mathlib.Data.List.Nodup

/-! # The name of an entry

A name fills its slot of 36 units, without a unit to end it. What is read of the slot and written
back is mended and followed by zeros, and every text can be written: of one that is too long the
slot holds the characters that fit, and half of the next one where a unit is left.
-/
namespace ByteLayout.Gpt
open Utf16

/-! ## The slot of a name -/

/-- The bytes of a text in the slot of a name: they are cut to the slot and filled up with zeros. -/
def nameBytes (t : Text) : Bytes :=
  ByteLayout.padded nameSize ((writeUnits .little (t.flatMap encodeChar)).take nameSize)

theorem length_nameBytes (t : Text) : (nameBytes t).length = nameSize :=
  length_padded (List.length_take_le _ _)

theorem encodeName_text {t : Text} (ht : ∀ c ∈ t, Text.isScalar c = true) {buffer : Bytes} {o : Nat}
    (hb : o + nameSize ≤ buffer.length) (order : ByteOrder) :
    encodeName buffer o (.text t) order = .ok (patch buffer o (nameBytes t)) := by
  have he : (Encoding.utf16 (some .little)).encode? t =
      some (writeUnits .little (t.flatMap encodeChar)) := by
    rw [← Encoding.body_utf16]
    exact Encoding.encode?_of_covers ht
  have hfit : fitted nameSize (writeUnits .little (t.flatMap encodeChar)) = nameBytes t := by
    rw [fitted, slice_zero, nameBytes]
  simp only [encodeName, he, hfit, splice_eq_patch hb (length_nameBytes t)]

def nameUnits (b : Bytes) : List Nat := (List.range 36).map fun i => numberAt b (56 + 2 * i) 2

def keptUnits (b : Bytes) : List Nat := (nameUnits b).takeWhile (· != 0)

section
variable {b : Bytes} (hb : b.length = 128)
include hb

theorem readUnits_name : readUnits .little (b.drop 56) = (nameUnits b, false) := by
  have hl : (b.drop 56).length = 2 * 36 := by rw [List.length_drop, hb]
  rw [readUnits_of_length .little hl]
  simp only [List.drop_drop]
  rfl

theorem decodeName_entry (order : ByteOrder) :
    decodeName (.bytes b) (56 : Nat) order = .ok (.text (decodeUnits false (keptUnits b))) := by
  have hl : (b.drop 56).length ≤ nameSize := by rw [List.length_drop, hb]; decide
  have hz := endsAtZero false (nameUnits b)
  rw [EndsAtZero] at hz
  rw [decodeName_bytes, List.take_of_length_le hl, decode, readUnits_name hb]
  exact congrArg (fun t => Except.ok (Value.text t)) hz.symm

theorem lt_of_mem_nameUnits {u : Nat} (hu : u ∈ nameUnits b) : u < 0x10000 := by
  have h := readUnits_name hb
  exact lt_of_mem_readUnits (by rw [h]; exact hu)

theorem eq_of_nameUnits {b' : Bytes} (hb' : b'.length = 128) (hfront : b'.take 56 = b.take 56)
    (hunits : nameUnits b' = nameUnits b) : b' = b := by
  have hback : ∀ {c : Bytes}, c.length = 128 →
      c = c.take 56 ++ writeUnits .little (nameUnits c) := by
    intro c hc
    have hl : (c.drop 56).length = 2 * 36 := by rw [List.length_drop, hc]
    have hw := writeUnits_readUnits .little hl
    rw [readUnits_name hc] at hw
    rw [hw, List.take_append_drop]
  rw [hback hb', hback hb, hfront, hunits]

end

theorem length_nameUnits (b : Bytes) : (nameUnits b).length = 36 := by
  rw [nameUnits, List.length_map, List.length_range]

theorem length_keptUnits_le (b : Bytes) : (keptUnits b).length ≤ 36 := by
  rw [← length_nameUnits b]
  exact (List.takeWhile_prefix _).length_le

theorem nameUnits_append {front : Bytes} (hf : front.length = 56) {units : List Nat}
    (hl : units.length = 36) (hu : ∀ u ∈ units, u < 0x10000) :
    nameUnits (front ++ writeUnits .little units) = units := by
  have hb : (front ++ writeUnits .little units).length = 128 := by
    rw [List.length_append, hf, length_writeUnits, hl]
  have hr := readUnits_writeUnits .little units hu []
  have hn := readUnits_name hb
  rw [List.append_nil] at hr
  rw [List.drop_left' hf, hr] at hn
  have h : units ++ [] = nameUnits (front ++ writeUnits .little units) := congrArg Prod.fst hn
  rw [← h, List.append_nil]

/-- The text of a row of units is written as those units are mended, and zeros behind them. -/
theorem nameBytes_decodeUnits {units : List Nat} (hl : units.length ≤ 36)
    (hu : ∀ u ∈ units, u < 0x10000) :
    nameBytes (decodeUnits false units) =
      writeUnits .little (mended units ++ List.replicate (36 - units.length) 0) := by
  have hw : (writeUnits .little (mended units)).length = 2 * units.length := by
    rw [length_writeUnits, length_mended]
  have hfits : (writeUnits .little (mended units)).length ≤ nameSize := by
    rw [hw, nameSize]
    omega
  have hrest : nameSize - 2 * units.length = 2 * (36 - units.length) := by
    rw [nameSize]
    omega
  rw [nameBytes, flatMap_encodeChar_decodeUnits hu, List.take_of_length_le hfits, padded_eq, hw,
    hrest, writeUnits_append, writeUnits_zeros]

/-! ## The slots of an entry -/

def frontLayout : Layout where
  name := entryLayout.name
  order := .little
  slots := entryLayout.slots.take 5
  distinct := by decide

def nameLayout : Layout where
  name := entryLayout.name
  order := .little
  slots := entryLayout.slots.drop 5
  distinct := by decide

theorem slots_entryLayout : entryLayout.slots = frontLayout.slots ++ nameLayout.slots := rfl

theorem isLossless_frontLayout : ∀ slot ∈ frontLayout.slots, slot.field.IsLossless := by
  intro slot hs
  simp only [frontLayout, entryLayout, List.take_succ_cons, List.take_zero, List.mem_cons,
    List.not_mem_nil, or_false] at hs
  rcases hs with rfl | rfl | rfl | rfl | rfl
  · exact .bytes _
  · exact .bytes _
  · exact .integer_none ..
  · exact .integer_none ..
  · exact .bits _

theorem builtIn_frontLayout : ∀ slot ∈ frontLayout.slots, slot.field.BuiltIn :=
  fun slot hs => (isLossless_frontLayout slot hs).builtIn

theorem knowsAt_frontLayout (b : Bytes) (o : Int) : frontLayout.KnowsAt b o := by
  intro place hm
  simp only [Layout.placed, Layout.placedFrom, frontLayout, entryLayout, List.take_succ_cons,
    List.take_zero, List.mem_cons, List.not_mem_nil, or_false] at hm
  rcases hm with rfl | rfl | rfl | rfl | rfl
  all_goals trivial

/-- The fields before the name are written as they are without one. -/
theorem pack_entryLayout {value? : String → Option Value} {front : Bytes} {t : Text}
    (hfront : frontLayout.packEach value? frontLayout.slots = .ok front)
    (hname : value? "name" = some (.text t)) (ht : ∀ c ∈ t, Text.isScalar c = true) :
    entryLayout.pack value? = .ok (front ++ nameBytes t) := by
  have hentry : entryLayout.packEach value? frontLayout.slots = .ok front :=
    Layout.packEach_of_order rfl hfront
  have hl : front.length = 56 := Layout.length_packEach builtIn_frontLayout hfront
  have hsize : (front ++ nameBytes t).length = 128 := by
    rw [List.length_append, hl, length_nameBytes, nameSize]
  have hrun : entryLayout.packSlots 128 value? (Layout.placedFrom 0 frontLayout.slots)
      (List.replicate 56 0 ++ List.replicate 72 0) = .ok (front ++ List.replicate 72 0) := by
    have h : entryLayout.packSlots 128 value? (Layout.placedFrom 0 frontLayout.slots)
        (List.replicate 56 0 ++ List.replicate 72 0) =
          (entryLayout.packEach value? frontLayout.slots).map (· ++ List.replicate 72 0) :=
      Layout.packSlots_eq builtIn_frontLayout [] (List.replicate 72 0) rfl
    rw [h, hentry]
    rfl
  have hplace : (56 : Nat) + nameSize ≤ (front ++ List.replicate 72 (0 : UInt8)).length := by
    rw [List.length_append, hl]
    decide
  have hpatch : patch (front ++ List.replicate 72 0) 56 (nameBytes t) = front ++ nameBytes t := by
    rw [patch, List.take_left' hl, List.drop_eq_nil_of_le, List.append_nil]
    rw [length_nameBytes, List.length_append, List.length_replicate, hl]
    exact Nat.le_refl _
  have hencode : encodeName (front ++ List.replicate 72 0) (56 : Nat) (.text t) .little =
      .ok (front ++ nameBytes t) := by
    rw [encodeName_text ht hplace, hpatch]
  apply Layout.pack_eq_iff.mpr
  refine .packed ?_ (by decide) ?_ hsize
  · intro name hn
    obtain ⟨slot, hs, rfl⟩ := List.mem_map.mp hn
    rw [slots_entryLayout] at hs
    rcases List.mem_append.mp hs with hs | hs
    · obtain ⟨v, -, hv, -⟩ := Layout.exists_write_of_packEach hfront slot hs
      rw [hv]
      rfl
    · obtain rfl := List.mem_singleton.mp hs
      rw [hname]
      rfl
  · exact .append (Layout.packSlots_eq_ok_iff.mp hrun) (.cons hname hencode hsize (.nil ..))

/-- An entry is the fields before its name, and the text of the name. -/
theorem exists_unpack_entry {b : Bytes} (hb : b.length = 128) {x : Items Value}
    (hx : (frontLayout.unpack b 0).result = .ok x) :
    ∃ items, (entryLayout.unpack b 0).result = .ok items ∧
      items.entries = x.entries ++ [("name", .text (decodeUnits false (keptUnits b)))] := by
  have hname : (nameLayout.unpack b (56 : Nat)).result =
      .ok ⟨[("name", .text (decodeUnits false (keptUnits b)))], List.nodup_singleton _⟩ := by
    apply (Layout.unpack_eq_ok_iff (Nat.le_of_eq hb.symm)).mpr
    apply Logged.result_mapM_eq_ok_iff.mpr
    refine .cons (Layout.result_entryAt_eq_ok_iff.mpr ⟨rfl, ?_⟩) .nil
    exact decodeName_entry hb .little
  exact Layout.exists_entries_of_append slots_entryLayout rfl rfl
    (Nat.le_of_eq ((Nat.zero_add _).trans hb.symm)) hx hname

/-! ## An entry that is written back -/

section
variable {b : Bytes} (hb : b.length = 128)
include hb

theorem lt_of_mem_keptUnits {u : Nat} (hu : u ∈ keptUnits b) : u < 0x10000 :=
  lt_of_mem_nameUnits hb ((List.takeWhile_prefix _).subset hu)

/-- An entry is written as the bytes before its name, and its name mended. -/
theorem exists_pack_unpack_entry :
    ∃ x items, (frontLayout.unpack b 0).result = .ok x ∧
      (entryLayout.unpack b 0).result = .ok items ∧
      items.entries = x.entries ++ [("name", .text (decodeUnits false (keptUnits b)))] ∧
      entryLayout.pack items.get? =
        .ok (b.take 56 ++ nameBytes (decodeUnits false (keptUnits b))) := by
  have hsize : 0 + frontLayout.size ≤ b.length := by
    rw [hb]
    decide
  obtain ⟨x, hx, hp⟩ := Layout.exists_unpack_of_lossless (by decide) isLossless_frontLayout hsize
    (knowsAt_frontLayout b 0)
  obtain ⟨items, hu, he⟩ := exists_unpack_entry hb hx
  have hfront : frontLayout.packEach x.get? frontLayout.slots = .ok (b.take 56) := by
    rw [slice_eq_take_drop, List.drop_zero] at hp
    exact ((Layout.pack_eq_ok_iff builtIn_frontLayout).mp hp).2
  have hsame : ∀ slot ∈ frontLayout.slots, items.get? slot.name = x.get? slot.name := by
    intro slot hs
    obtain ⟨v, -, hv, -⟩ := Layout.exists_write_of_packEach hfront slot hs
    rw [Items.get?, he, List.lookup_append, ← Items.get?, hv]
    rfl
  have hname : items.get? "name" = some (.text (decodeUnits false (keptUnits b))) := by
    have hm : ("name", Value.text (decodeUnits false (keptUnits b))) ∈ items.entries := by
      rw [he]
      exact List.mem_append_right _ List.mem_cons_self
    exact Items.get?_of_mem items hm
  refine ⟨x, items, hx, hu, he, pack_entryLayout ?_ hname fun c hc => ?_⟩
  · rw [Layout.packEach_congr hsame]
    exact hfront
  · exact isScalar_of_mem_decodeUnits (fun u => lt_of_mem_keptUnits hb) hc

/-- An entry is what its first bytes and the text of its name are. -/
theorem result_unpack_congr {b' : Bytes} (hb' : b'.length = 128)
    (hfront : b'.take 56 = b.take 56)
    (hname : decodeUnits false (keptUnits b') = decodeUnits false (keptUnits b)) :
    (entryLayout.unpack b' 0).result = (entryLayout.unpack b 0).result := by
  have hreads : ∀ slot ∈ frontLayout.slots, slot.field.ReadsSlot slot.size := fun slot hs =>
    Field.readsSlot_of_builtIn (builtIn_frontLayout slot hs) slot.sized
  have hwindow : ∀ c : Bytes, c.length = 128 →
      frontLayout.unpack c (0 : Nat) = frontLayout.unpack (c.take 56) 0 := by
    intro c hc
    exact Layout.unpack_eq_window hreads (by rw [hc]; decide)
  have hsame : frontLayout.unpack b' (0 : Nat) = frontLayout.unpack b (0 : Nat) := by
    rw [hwindow b' hb', hfront, hwindow b hb]
  obtain ⟨x, items, hx, hu, he, -⟩ := exists_pack_unpack_entry hb
  obtain ⟨items', hu', he'⟩ := exists_unpack_entry hb' ((congrArg Logged.result hsame).trans hx)
  rw [hname, ← he] at he'
  rw [hu, hu', Items.ext he']

end

def mendedUnits (b : Bytes) : List Nat :=
  mended (keptUnits b) ++ List.replicate (36 - (keptUnits b).length) 0

theorem length_mendedUnits (b : Bytes) : (mendedUnits b).length = 36 := by
  have h := length_keptUnits_le b
  rw [mendedUnits, List.length_append, length_mended, List.length_replicate]
  omega

/-- No unit has become zero, so that the same ones are kept. -/
theorem takeWhile_mendedUnits (b : Bytes) :
    (mendedUnits b).takeWhile (· != 0) = mended (keptUnits b) := by
  have hn : ∀ u ∈ mended (keptUnits b), (u != 0) = true := by
    intro u hu
    rcases mem_mended hu with rfl | hu
    · rfl
    · exact List.mem_takeWhile_imp (p := (· != 0)) hu
  have hz : (List.replicate (36 - (keptUnits b).length) 0).takeWhile (· != 0) = [] := by
    rw [List.takeWhile_replicate]
    rfl
  rw [mendedUnits, List.takeWhile_append_of_pos hn, hz, List.append_nil]

/-- The units are as they were when they make pairs and nothing stands behind the first zero. -/
theorem mendedUnits_eq_iff (b : Bytes) :
    mendedUnits b = nameUnits b ↔
      (∀ i < (keptUnits b).length, isUnpaired (keptUnits b) i = false) ∧
      (nameUnits b).drop (keptUnits b).length =
        List.replicate (36 - (keptUnits b).length) 0 := by
  have hsplit : keptUnits b ++ (nameUnits b).drop (keptUnits b).length = nameUnits b :=
    (List.prefix_iff_eq_append.mp (List.takeWhile_prefix _))
  rw [← mended_eq_self_iff]
  constructor
  · intro h
    rw [← hsplit] at h
    obtain ⟨hm, hz⟩ := List.append_inj h (length_mended _)
    exact ⟨hm, hz.symm⟩
  · rintro ⟨hm, hz⟩
    rw [mendedUnits, hm, ← hz, hsplit]

/-- An entry that is read and written back keeps the bytes before its name. In the name the units
before the first zero are mended and nothing but zeros is behind them. It is read as the same
entry again, and is the same bytes when there was nothing to mend and nothing behind the zero. -/
theorem toBuffer_unpack_entry (b : Bytes) (hb : b.length = 128) :
    ∃ items record b', (entryLayout.unpack b 0).result = .ok items ∧
      Record.create entryClass none items = .ok record ∧ record.toBuffer = .ok b' ∧
      b'.length = 128 ∧ b'.take 56 = b.take 56 ∧
      nameUnits b' = mended (keptUnits b) ++ List.replicate (36 - (keptUnits b).length) 0 ∧
      (entryLayout.unpack b' 0).result = .ok items ∧
      (b' = b ↔ (∀ i < (keptUnits b).length, isUnpaired (keptUnits b) i = false) ∧
        (nameUnits b).drop (keptUnits b).length =
          List.replicate (36 - (keptUnits b).length) 0) := by
  obtain ⟨-, items, -, hu, -, hp⟩ := exists_pack_unpack_entry hb
  rw [nameBytes_decodeUnits (length_keptUnits_le b) fun u => lt_of_mem_keptUnits hb,
    ← mendedUnits] at hp
  have hfront : (b.take 56).length = 56 := List.length_take_of_le (by omega)
  have hlt : ∀ u ∈ mendedUnits b, u < 0x10000 := by
    intro u hu
    rcases List.mem_append.mp hu with hu | hu
    · rcases mem_mended hu with rfl | hu
      · decide
      · exact lt_of_mem_keptUnits hb hu
    · rw [List.eq_of_mem_replicate hu]
      decide
  have hunits := nameUnits_append hfront (length_mendedUnits b) hlt
  generalize hb' : b.take 56 ++ writeUnits .little (mendedUnits b) = b' at hp hunits
  have hl : b'.length = 128 := by
    rw [← hb', List.length_append, hfront, length_writeUnits, length_mendedUnits]
  have htake : b'.take 56 = b.take 56 := by rw [← hb', List.take_left' hfront]
  have hkept : keptUnits b' = mended (keptUnits b) := by
    rw [keptUnits, hunits, takeWhile_mendedUnits]
  refine ⟨items, _, b', hu, rfl, hp, hl, htake, hunits, ?_, ?_⟩
  · rw [← hu]
    apply result_unpack_congr hb hl htake
    rw [hkept, decodeUnits_mended fun u => lt_of_mem_keptUnits hb]
  · rw [← mendedUnits_eq_iff, ← hunits]
    exact ⟨fun h => by rw [h], eq_of_nameUnits hb hl htake⟩

/-- Half of a pair, twice, before a whole one, and a unit behind the first zero. -/
def tornEntry : Bytes :=
  List.replicate 56 7 ++
    ([0x61, 0, 0x3D, 0xD8, 0x3D, 0xD8, 0, 0xDE, 0, 0xDE, 0, 0, 0x62, 0] ++ List.replicate 58 9)

theorem toBuffer_unpack_tornEntry :
    tornEntry.length = 128 ∧ ∃ items record b',
      (entryLayout.unpack tornEntry 0).result = .ok items ∧
      Record.create entryClass none items = .ok record ∧ record.toBuffer = .ok b' ∧
      b'.length = 128 ∧ b'.take 56 = List.replicate 56 7 ∧
      nameUnits b' = [0x61, 0xFFFD, 0xD83D, 0xDE00, 0xFFFD] ++ List.replicate 31 0 ∧
      (entryLayout.unpack b' 0).result = .ok items ∧ b' ≠ tornEntry := by
  have hkept : keptUnits tornEntry = [0x61, 0xD83D, 0xD83D, 0xDE00, 0xDE00] := rfl
  have hl : tornEntry.length = 128 := rfl
  obtain ⟨items, record, b', hu, hr, hp, hl', hfront, hunits, hu', hsame⟩ :=
    toBuffer_unpack_entry tornEntry hl
  rw [hkept] at hunits hsame
  refine ⟨hl, items, record, b', hu, hr, hp, hl', hfront, hunits, hu', fun h => ?_⟩
  exact absurd ((hsame.mp h).1 1 (by decide)) (by decide)

/-! ## A name that is written -/

def named (given? : String → Option Value) (t : Text) (name : String) : Option Value :=
  if name = "name" then some (.text t) else given? name

/-- Fields that take their values write the same bytes for them under any name. -/
theorem exists_front {given? : String → Option Value}
    (h : ∀ slot ∈ entryLayout.slots, slot.name ≠ "name" → ∃ v written,
      given? slot.name = some v ∧
        slot.field.encode (List.replicate slot.size 0) 0 v .little = .ok written) :
    ∃ front, front.length = 56 ∧
      ∀ t, frontLayout.packEach (named given? t) frontLayout.slots = .ok front := by
  have hother : ∀ slot ∈ frontLayout.slots, slot.name ≠ "name" := by decide
  have hwrite : ∀ slot ∈ frontLayout.slots, ∃ v raw, given? slot.name = some v ∧
      slot.field.write slot.size v frontLayout.order = .ok raw := by
    intro slot hs
    obtain ⟨v, written, hv, he⟩ := h slot (List.mem_of_mem_take hs) (hother slot hs)
    have hslot : 0 + slot.size ≤ (List.replicate slot.size (0 : UInt8)).length := by
      rw [List.length_replicate, Nat.zero_add]
    have hw := Field.encode_eq_patch (builtIn_frontLayout slot hs) slot.sized hslot v .little
    cases hraw : slot.field.write slot.size v .little with
    | error fault =>
      rw [hraw] at hw
      cases hw.symm.trans he
    | ok raw => exact ⟨v, raw, hv, hraw⟩
  obtain ⟨front, hp⟩ := Layout.exists_packEach_of_write hwrite
  refine ⟨front, Layout.length_packEach builtIn_frontLayout hp, fun t => ?_⟩
  rw [← hp]
  exact Layout.packEach_congr fun slot hs => if_neg (hother slot hs)

/-- A name is read as what of it is before its first zero character, as far as the slot goes. -/
theorem decodeName_nameBytes {front : Bytes} (hf : front.length = 56) {t : Text}
    (ht : ∀ c ∈ t, Text.isScalar c = true) (order : ByteOrder) :
    decodeName (.bytes (front ++ nameBytes t)) (56 : Nat) order = .ok (.text (decode .little
      (((Encoding.utf16 (some .little)).body t.beforeZero).take (2 * 36)))) := by
  have hcut := Encoding.cutUnits_padded (e := .utf16 (some .little)) ht 36
  have hread := Encoding.decode_cutUnits (.utf16 (some .little)) (nameBytes t)
  have hbytes : nameBytes t = ByteLayout.padded (2 * 36 : Nat)
      (((Encoding.utf16 (some .little)).body t).take (2 * 36)) := by
    rw [Encoding.body_utf16]
    rfl
  rw [decodeName_bytes, List.drop_left' hf,
    List.take_of_length_le (Nat.le_of_eq (length_nameBytes t))]
  refine congrArg (fun t => Except.ok (Value.text t)) (hread.symm.trans ?_)
  rw [hbytes]
  exact congrArg (decode .little) hcut

/-- Any text can be written as a name, with any values of the other fields that these take. It
fills its slot and leaves the bytes of the others alone. What is read is the text before its first
zero character, or as much of it as fits and a replacement where half of a pair does. -/
theorem unpack_pack_named {given? : String → Option Value}
    (h : ∀ slot ∈ entryLayout.slots, slot.name ≠ "name" → ∃ v written,
      given? slot.name = some v ∧
        slot.field.encode (List.replicate slot.size 0) 0 v .little = .ok written) :
    ∃ front : Bytes, front.length = 56 ∧ ∀ s : Text, (∀ c ∈ s, Text.isScalar c = true) →
      entryLayout.pack (named given? s) = .ok (front ++ nameBytes s) ∧
      (nameBytes s).length = 72 ∧
      ∃ items name, (entryLayout.unpack (front ++ nameBytes s) 0).result = .ok items ∧
        items.get? "name" = some (.text name) ∧
        (unitCount s.beforeZero ≤ 36 → name = s.beforeZero) ∧
        (36 < unitCount s.beforeZero → ∃ q, IsLongest 36 s.beforeZero q ∧
          name = q ++ if unitCount q = 35 then [Text.replacement] else []) := by
  obtain ⟨front, hf, hp⟩ := exists_front h
  refine ⟨front, hf, fun s hs => ⟨pack_entryLayout (hp s) rfl hs, length_nameBytes s, ?_⟩⟩
  have hl : (front ++ nameBytes s).length = 128 := by
    rw [List.length_append, hf, length_nameBytes, nameSize]
  have hsize : 0 + entryLayout.size ≤ (front ++ nameBytes s).length := by
    rw [hl]
    decide
  obtain ⟨items, hu⟩ := Layout.exists_unpack_of_readsAny
    (fun slot hm => (reads_entryLayout slot hm).2) hsize
  have hplaced : (56, ⟨"name", .custom (.int nameSize) nameCodec, 72, rfl⟩) ∈ entryLayout.placed :=
    List.mem_of_getElem? (i := 5) rfl
  obtain ⟨v, hv, hd⟩ := Layout.get?_of_unpack hsize hu hplaced
  obtain rfl := Except.ok.inj ((decodeName_nameBytes hf hs .little).symm.trans hd)
  have hbefore : ∀ c ∈ s.beforeZero, Text.isScalar c = true := fun c hc =>
    hs c ((List.takeWhile_prefix _).subset hc)
  refine ⟨items, _, hu, hv, fun hfits => ?_, fun hlong => ?_⟩
  · have hall : ((Encoding.utf16 (some .little)).body s.beforeZero).length ≤ 2 * 36 := by
      rw [length_body]
      omega
    rw [List.take_of_length_le hall]
    exact Encoding.decode_body (e := .utf16 (some .little)) hbefore
  · obtain ⟨q, hq, hcut⟩ := exists_isLongest .little hbefore hlong
    refine ⟨q, hq, hcut.trans ?_⟩
    simp only [Nat.add_right_cancel_iff (n := 1) (m := unitCount q) (k := 35)]

def spareValues (name : String) : Option Value :=
  [("partition_type_guid", Value.bytes (List.replicate 16 1)),
    ("unique_guid", .buffer (List.replicate 16 2)), ("first_lba", .int 34), ("last_lba", .int 99),
    ("attributes", .int 4)].lookup name

def longName : Text := List.replicate 35 0x61 ++ [0x1F600]

theorem eq_of_isLongest_longName {q : Text} (hq : IsLongest 36 longName q) :
    q = List.replicate 35 0x61 := by
  have hp : List.replicate 35 0x61 <+: longName := ⟨[0x1F600], rfl⟩
  have hinitial := List.prefix_iff_eq_take.mp hq.initial
  have hmore := (hq.longest _ hp (by decide)).length_le
  have hless := hq.initial.length_le
  have hfits := hq.fits
  rw [List.length_replicate] at hmore
  have hcount : longName.length = 36 := rfl
  obtain hl | hl : q.length = 35 ∨ q.length = 36 := by omega
  · rw [hinitial, hl]
    rfl
  · rw [hinitial, hl] at hfits
    exact absurd hfits (by decide)

theorem unpack_pack_longName :
    ∃ front : Bytes, front.length = 56 ∧ ∃ items,
      entryLayout.pack (named spareValues (longName ++ [0, 0x62])) =
        .ok (front ++ nameBytes (longName ++ [0, 0x62])) ∧
      (entryLayout.unpack (front ++ nameBytes (longName ++ [0, 0x62])) 0).result = .ok items ∧
      items.get? "name" = some (.text (List.replicate 35 0x61 ++ [Text.replacement])) := by
  have hgiven : ∀ slot ∈ entryLayout.slots, slot.name ≠ "name" → ∃ v written,
      spareValues slot.name = some v ∧
        slot.field.encode (List.replicate slot.size 0) 0 v .little = .ok written := by
    intro slot hs hn
    simp only [entryLayout, List.mem_cons, List.not_mem_nil, or_false] at hs
    rcases hs with rfl | rfl | rfl | rfl | rfl | rfl
    · exact ⟨_, _, rfl, rfl⟩
    · exact ⟨_, _, rfl, rfl⟩
    · exact ⟨_, _, rfl, rfl⟩
    · exact ⟨_, _, rfl, rfl⟩
    · exact ⟨_, _, rfl, rfl⟩
    · exact absurd rfl hn
  obtain ⟨front, hf, hall⟩ := unpack_pack_named hgiven
  obtain ⟨hp, -, items, name, hu, hname, -, hlong⟩ := hall (longName ++ [0, 0x62]) (by decide)
  have hbefore : (longName ++ [0, 0x62]).beforeZero = longName := by decide
  rw [hbefore] at hlong
  obtain ⟨q, hq, rfl⟩ := hlong (by decide)
  rw [eq_of_isLongest_longName hq] at hname
  exact ⟨front, hf, items, hp, hu, hname⟩

end ByteLayout.Gpt
