import ByteLayout.Proofs.Layout.Composition
import ByteLayout.Proofs.Layout.Definition

/-! # The two byte orders

A layout and the one of the same fields in the other byte order take the same values. Their bytes
differ slot by slot: where an integer or a row of bits stands the bytes are turned around in
place, where bytes or a text stand they are the same. What is unpacked differs in nothing else.
-/
namespace ByteLayout

theorem ByteOrder.write_little (w n : Nat) : little.write w n = (big.write w n).reverse :=
  (List.reverse_reverse (littleBytes w n)).symm

namespace Field

def turned (field : Field) (slot : Bytes) : Bytes :=
  match field with
  | number .. | bits _ => slot.reverse
  | _ => slot

theorem length_turned (field : Field) (slot : Bytes) :
    (field.turned slot).length = slot.length := by
  cases field with
  | number | bits => exact List.length_reverse
  | _ => rfl

theorem write_integer_little (name : String) (signed : Bool) (width : Nat) (letter : String)
    (members : Option Enumeration) (v : Value) :
    (integer name signed width letter members).write width v .little =
      ((integer name signed width letter members).write width v .big).map List.reverse := by
  simp only [integer, write, encode_integer, Code.encode, Value.withIndex]
  cases (unwrapped members v).index? with
  | none => rfl
  | some index =>
    cases index with
    | error kind => cases kind <;> rfl
    | ok i =>
      by_cases hr : Code.inRange signed width i = true
      · have hw := ByteOrder.write_little width (residue width i)
        simp only [if_pos hr, hw]
        rfl
      · simp only [if_neg hr]
        rfl

theorem write_bits_little (declared : Value) (n : Nat) (v : Value) :
    (bits declared).write n v .little = ((bits declared).write n v .big).map List.reverse := by
  simp only [write]
  cases eightfold declared with
  | error fault => rfl
  | ok length? =>
    cases (bits declared).bitsFor n v with
    | error fault => rfl
    | ok row? =>
      cases row? with
      | none => rfl
      | some row =>
        by_cases hl : (row.length : Int) = 8 * n
        · simp only [bind, Except.bind, if_pos hl]
          rfl
        · simp only [bind, Except.bind, if_neg hl]
          rfl

variable {field : Field} {n : Nat}

/-- A value is refused in both orders or in none, and its bytes are turned. -/
theorem write_little (hf : field.BuiltIn) (hn : field.slotSize? = some n) (v : Value) :
    field.write n v .little = (field.write n v .big).map field.turned := by
  have hid : ∀ result : Except Fault Bytes, result = result.map id := fun result => by
    cases result <;> rfl
  cases hf with
  | integer name signed width letter members =>
    obtain rfl := width_eq hn
    exact write_integer_little name signed width letter members v
  | bits declared => exact write_bits_little declared n v
  | bytes => exact hid _
  | string => exact hid _
  | cstring => exact hid _

/-- Only a field whose bytes are the same in both orders leaves some of its slot to the zeros. -/
theorem padded_turned (hf : field.BuiltIn) (hn : field.slotSize? = some n) {v : Value}
    {order : ByteOrder} {raw : Bytes} (h : field.write n v order = .ok raw) :
    padded n (field.turned raw) = field.turned (padded n raw) := by
  have hfull : raw.length = n → padded n (field.turned raw) = field.turned (padded n raw) := by
    intro hl
    rw [padded_of_length hl, padded_of_length ((field.length_turned raw).trans hl)]
  cases hf with
  | integer name signed width letter members =>
    obtain rfl := width_eq hn
    obtain ⟨i, -, -, rfl⟩ := write_integer_eq_ok.mp h
    exact hfull (order.length_write width _)
  | bits declared => exact hfull (length_write_bits h)
  | bytes => rfl
  | string => rfl
  | cstring => rfl

theorem read_little (hf : field.BuiltIn) (hn : field.slotSize? = some n) {slot : Bytes}
    (hl : slot.length = n) : field.read .little slot = field.read .big (field.turned slot) := by
  have ht := (field.length_turned slot).trans hl
  cases hf with
  | integer name signed width letter members =>
    obtain rfl := width_eq hn
    have hr : ByteOrder.little.read slot = ByteOrder.big.read slot.reverse := by
      simp only [ByteOrder.read, ByteOrder.arrange, List.reverse_reverse]
    have hh : heldInt signed width .little slot = heldInt signed width .big slot.reverse := by
      simp only [heldInt, hr]
    rw [read_integer hl, read_integer ht, hh]
    rfl
  | bits declared => rfl
  | bytes => rfl
  | string => rfl
  | cstring => rfl

end Field

namespace Layout

/-- The bytes of the slots one after the other, each as the other byte order has them; what is
behind the slots stays. -/
def turnedSlots : List Slot → Bytes → Bytes
  | [], bytes => bytes
  | slot :: rest, bytes =>
    slot.field.turned (bytes.take slot.size) ++ turnedSlots rest (bytes.drop slot.size)

def turned (layout : Layout) (bytes : Bytes) : Bytes := turnedSlots layout.slots bytes

theorem length_turnedSlots (slots : List Slot) (bytes : Bytes) :
    (turnedSlots slots bytes).length = bytes.length := by
  induction slots generalizing bytes with
  | nil => rfl
  | cons slot rest ih =>
    have hsplit := congrArg List.length (List.take_append_drop slot.size bytes)
    rw [List.length_append] at hsplit
    rw [turnedSlots, List.length_append, Field.length_turned, ih, hsplit]

/-- Each slot is turned where it stands, by induction on the slots before it. -/
theorem slice_turnedSlots {slots : List Slot} {bytes : Bytes} (hb : extent slots ≤ bytes.length) :
    ∀ p ∈ placedFrom 0 slots, ((turnedSlots slots bytes).drop p.1).take p.2.size =
      p.2.field.turned ((bytes.drop p.1).take p.2.size) := by
  induction slots generalizing bytes with
  | nil => exact fun _ hp => absurd hp List.not_mem_nil
  | cons slot rest ih =>
    rw [extent_cons] at hb
    have hl : (slot.field.turned (bytes.take slot.size)).length = slot.size := by
      rw [Field.length_turned, List.length_take]
      omega
    have hrest : extent rest ≤ (bytes.drop slot.size).length := by
      rw [List.length_drop]
      omega
    intro p hp
    rw [placedFrom, Nat.add_comm 0 slot.size, placedFrom_add] at hp
    rw [turnedSlots]
    rcases List.mem_cons.mp hp with rfl | hp
    · rw [List.drop_zero, List.drop_zero, List.take_left' hl]
    · obtain ⟨q, hq, rfl⟩ := List.mem_map.mp hp
      have hi := ih hrest q hq
      rw [List.drop_drop] at hi
      rw [← hi, ← List.drop_drop, List.drop_left' hl]

section
variable {little big : Layout} {value? : String → Option Value}

theorem packEach_little (hname : little.name = big.name) (hl : little.order = .little)
    (hb : big.order = .big) {slots : List Slot} (hf : ∀ slot ∈ slots, slot.field.BuiltIn) :
    little.packEach value? slots = (big.packEach value? slots).map (turnedSlots slots) := by
  induction slots with
  | nil => rfl
  | cons slot rest ih =>
    have hslot := hf slot List.mem_cons_self
    have hrest := ih fun other hm => hf other (List.mem_cons_of_mem _ hm)
    rw [packEach, packEach]
    cases value? slot.name with
    | none => rfl
    | some v =>
      have hw := Field.write_little hslot slot.sized v
      simp only [hl, hb, hw]
      cases hraw : slot.field.write slot.size v .big with
      | error fault =>
        rw [hname]
        rfl
      | ok raw =>
        have hp := Field.padded_turned hslot slot.sized hraw
        have hlen : (padded slot.size raw).length = slot.size :=
          Field.length_padded_write hslot slot.sized hraw
        simp only [Except.map, hp] at hrest ⊢
        rw [hrest]
        cases big.packEach value? rest with
        | error fault => rfl
        | ok more =>
          simp only [turnedSlots]
          rw [List.take_left' hlen, List.drop_left' hlen]

theorem unpackEach_little {slots : List Slot} (hf : ∀ slot ∈ slots, slot.field.BuiltIn)
    {bytes : Bytes} (hb : extent slots ≤ bytes.length) :
    unpackEach .little slots bytes = unpackEach .big slots (turnedSlots slots bytes) := by
  induction slots generalizing bytes with
  | nil => rfl
  | cons slot rest ih =>
    rw [extent_cons] at hb
    have htake : (bytes.take slot.size).length = slot.size := by
      rw [List.length_take]
      omega
    have hrest : extent rest ≤ (bytes.drop slot.size).length := by
      rw [List.length_drop]
      omega
    have hlen := (slot.field.length_turned (bytes.take slot.size)).trans htake
    have hread := Field.read_little (hf slot List.mem_cons_self) slot.sized htake
    have hmore := ih (fun other hm => hf other (List.mem_cons_of_mem _ hm)) hrest
    rw [unpackEach, unpackEach, turnedSlots, List.take_left' hlen, List.drop_left' hlen, hread,
      hmore]

section
variable (hname : little.name = big.name) (hslots : little.slots = big.slots)
  (hl : little.order = .little) (hb : big.order = .big)
  (hf : ∀ slot ∈ big.slots, slot.field.BuiltIn)
include hname hslots hl hb hf

theorem pack_little : little.pack value? = (big.pack value?).map big.turned := by
  have hfl : ∀ slot ∈ little.slots, slot.field.BuiltIn := by rwa [hslots]
  have hnames : little.names = big.names := by rw [names, names, hslots]
  have hmissing : little.missing value? = big.missing value? := by rw [missing, missing, hnames]
  cases hm : big.missing value? with
  | cons first rest =>
    rw [pack, pack, packWithin, packWithin, hmissing, hm, hname]
    rfl
  | nil =>
    have hc := missing_eq_nil_iff.mp hm
    have hcl := missing_eq_nil_iff.mp (hmissing.trans hm)
    have hsize : little.size = big.size := by rw [size, size, hslots]
    by_cases hs : big.size < Value.lengthLimit
    · rw [pack_eq_packEach hfl (hsize ▸ hs) hcl, pack_eq_packEach hf hs hc, hslots]
      exact packEach_little hname hl hb hf
    · have hlarge := Nat.le_of_not_lt hs
      have hlittle : little.pack value? = .error (.bare .tooLarge) :=
        pack_eq_iff.mpr (.tooLarge hcl (hsize ▸ hlarge))
      rw [hlittle, pack_eq_iff.mpr (.tooLarge hc hlarge)]
      rfl

theorem unpack_little (b : Bytes) : little.unpack b 0 = big.unpack (big.turned b) 0 := by
  have hfl : ∀ slot ∈ little.slots, slot.field.BuiltIn := by rwa [hslots]
  have hsize : little.size = big.size := by rw [size, size, hslots]
  have hlen : (big.turned b).length = b.length := length_turnedSlots big.slots b
  unfold unpack unpackWithin
  rw [hsize, hlen]
  split
  · next h =>
    have hin : extent big.slots ≤ b.length := by
      have := h.2
      rw [Int.zero_add] at this
      exact Int.ofNat_le.mp this
    have hlittle : little.unpackSlots b 0 (placedFrom 0 little.slots) =
        unpackEach little.order little.slots b :=
      unpackSlots_eq hfl 0 (by rw [hslots]; omega)
    have hbig : big.unpackSlots (big.turned b) 0 (placedFrom 0 big.slots) =
        unpackEach big.order big.slots (big.turned b) :=
      unpackSlots_eq hf 0 (by omega)
    have he := unpackEach_little hf hin
    rw [hl, hslots] at hlittle
    rw [hb] at hbig
    rw [placed, placed, Int.toNat_zero, hslots, hlittle, hbig, he]
    rfl
  · rw [outside, outside, hname, hlen]

end

end

/-- Whatever can be defined in one order can be in the other, with the same slots. -/
theorem exists_define_big {name : Value} {fields : Items Field} {little : Layout}
    (hd : define name .little fields = .ok little) :
    ∃ big, define name .big fields = .ok big ∧ little.name = big.name ∧
      little.slots = big.slots ∧ little.order = .little ∧ big.order = .big := by
  obtain ⟨hname, horder, hentries⟩ := of_define hd
  have hs : slotsOf name fields.entries = .ok little.slots := by
    rw [← hentries]
    exact slotsOf_fields name little.slots
  obtain ⟨big, hb, hn, ho, hslots⟩ : ∃ big, define name .big fields = .ok big ∧ big.name = name ∧
      big.order = .big ∧ big.slots = little.slots := define_of_slotsOf hs
  exact ⟨big, hb, hname.trans hn.symm, hslots.symm, horder, ho⟩

/-- The layouts of a row of built-in fields in the two byte orders: what the one packs is what the
other does with its integers and bits turned around in place, and what the one unpacks the other
unpacks from the bytes so turned. -/
theorem pack_unpack_little {name : Value} {fields : Items Field} {little : Layout}
    (hf : ∀ entry ∈ fields.entries, entry.2.BuiltIn)
    (hd : define name .little fields = .ok little) :
    ∃ big, define name .big fields = .ok big ∧ big.placed = little.placed ∧
      (∀ value?, little.pack value? = (big.pack value?).map big.turned) ∧
      (∀ b, little.unpack b 0 = big.unpack (big.turned b) 0) ∧
      ∀ b : Bytes, b.length = big.size → (big.turned b).length = big.size ∧
        ∀ p ∈ big.placed, slice (big.turned b) p.1 (p.1 + p.2.size) =
          p.2.field.turned (slice b p.1 (p.1 + p.2.size)) := by
  obtain ⟨big, hbig, hname, hslots, hl, hb⟩ := exists_define_big hd
  have hbuilt : ∀ slot ∈ big.slots, slot.field.BuiltIn := by
    intro slot hs
    have hm : (slot.name, slot.field) ∈ big.fields.entries := List.mem_map_of_mem hs
    rw [(of_define hbig).2.2] at hm
    exact hf _ hm
  refine ⟨big, hbig, by rw [placed, placed, hslots],
    fun value? => pack_little hname hslots hl hb hbuilt,
    fun b => unpack_little hname hslots hl hb hbuilt b, ?_⟩
  intro b hlen
  refine ⟨(length_turnedSlots big.slots b).trans hlen, fun p hp => ?_⟩
  rw [slice_eq_take_drop, slice_eq_take_drop]
  exact slice_turnedSlots (Nat.le_of_eq hlen.symm) p hp

def signFields : Items Field where
  entries :=
    [("shade", .int16 (some shades)),
      ("title", .string ⟨.int 6, .ofString "utf-16-be", true⟩),
      ("flags", .bits (.int 2)),
      ("key", .bytes (.int 3))]
  distinct := by decide

def signValues (name : String) : Option Value :=
  [("shade", Value.int 300), ("title", .text [0x61, 0x1F600]), ("flags", .int 5),
    ("key", .bytes [1, 2, 3])].lookup name

theorem pack_unpack_sign :
    ∃ little big, define (.ofString "Sign") .little signFields = .ok little ∧
      define (.ofString "Sign") .big signFields = .ok big ∧
      big.pack signValues = .ok [1, 44, 0, 97, 216, 61, 222, 0, 0, 5, 1, 2, 3] ∧
      little.pack signValues = .ok [44, 1, 0, 97, 216, 61, 222, 0, 5, 0, 1, 2, 3] ∧
      little.unpack [44, 1, 0, 97, 216, 61, 222, 0, 5, 0, 1, 2, 3] 0 =
        big.unpack [1, 44, 0, 97, 216, 61, 222, 0, 0, 5, 1, 2, 3] 0 := by
  have hf : ∀ entry ∈ signFields.entries, entry.2.BuiltIn := by
    intro entry he
    simp only [signFields, List.mem_cons, List.not_mem_nil, or_false] at he
    rcases he with rfl | rfl | rfl | rfl
    · exact .integer ..
    · exact .string _ _ rfl
    · exact .bits _
    · exact .bytes _
  have hlittle : define (.ofString "Sign") .little signFields = .ok _ := rfl
  obtain ⟨big, hbig, -, hpack, hunpack, -⟩ := pack_unpack_little hf hlittle
  obtain rfl := Except.ok.inj hbig
  exact ⟨_, _, rfl, rfl, rfl, hpack signValues, hunpack _⟩

end Layout

end ByteLayout
