import ByteLayout.Proofs.Layout.RoundTrip
import ByteLayout.Proofs.Logged

/-! # What unpacking looks at

Unpacking reads one entry for each slot, in order. Where every field reads nothing but its slot,
the record depends on no more of the buffer than the bytes that the layout takes, wherever they
are; where they do not lie in the buffer, it depends on none and no field is asked.
-/
namespace ByteLayout

namespace Field
variable {field : Field} {n : Nat}

/-- The field reads nothing of a buffer but its slot, wherever the slot is. -/
def ReadsSlot (field : Field) (n : Nat) : Prop :=
  ∀ (buffer : Bytes) (o : Nat) (order : ByteOrder), o + n ≤ buffer.length →
    field.decode (.bytes buffer) o order = field.decode (.bytes ((buffer.drop o).take n)) 0 order

def ReadsAny (field : Field) (n : Nat) : Prop :=
  ∀ (buffer : Bytes) (o : Nat) (order : ByteOrder), o + n ≤ buffer.length →
    ∃ v, (field.decode (.bytes buffer) o order).result = .ok v

theorem slotSize?_bytes {n : Nat} (hn : 0 < n) :
    (bytes (.int n)).slotSize? = some n := slotSize?_of_declared rfl hn

theorem readsSlot_of_builtIn (hf : field.BuiltIn) (hn : field.slotSize? = some n) :
    field.ReadsSlot n := by
  intro buffer o order hb
  have hl := length_take_drop hb
  have hd := decode_eq_read hf hn (Nat.le_of_eq ((Nat.zero_add n).trans hl.symm)) order
  rw [List.drop_zero, List.take_of_length_le (Nat.le_of_eq hl)] at hd
  rw [decode_eq_read hf hn hb order]
  exact hd.symm

/-- A built-in field makes something of whatever its slot holds, if its enumeration does. -/
theorem exists_read_of_knows (hf : field.BuiltIn) (hn : field.slotSize? = some n) {slot : Bytes}
    (hl : slot.length = n) {order : ByteOrder} (hk : field.Knows order slot) :
    ∃ v, (field.read order slot).result = .ok v := by
  cases hf with
  | integer name signed width letter members =>
    obtain rfl := width_eq hn
    have hknown := (knows_integer_iff hl).mp hk
    rw [read_integer hl]
    cases members with
    | none => exact ⟨_, rfl⟩
    | some e => exact (hknown e rfl).exists_decode
  | bytes size => exact ⟨_, rfl⟩
  | bits size => exact ⟨_, rfl⟩
  | string shape encoding known => exact ⟨_, read_string known slot⟩
  | cstring shape => exact ⟨_, rfl⟩

theorem exists_decode_of_knows (hf : field.BuiltIn) (hn : field.slotSize? = some n)
    {buffer : Bytes} {o : Nat} (hb : o + n ≤ buffer.length) {order : ByteOrder}
    (hk : field.Knows order ((buffer.drop o).take n)) :
    ∃ v, (field.decode (.bytes buffer) o order).result = .ok v := by
  rw [decode_eq_read hf hn hb]
  exact exists_read_of_knows hf hn (length_take_drop hb) hk

theorem readsAny_of_builtIn (hf : field.BuiltIn) (hn : field.slotSize? = some n)
    (hk : ∀ order slot, field.Knows order slot) : field.ReadsAny n := by
  intro buffer o order hb
  exact exists_decode_of_knows hf hn hb (hk order _)

end Field

namespace Layout

def entryAt (order : ByteOrder) (buffer : Bytes) (start : Nat) (placed : Nat × Slot) :
    Logged (String × Value) := do
  let v ← placed.2.field.decode (.bytes buffer) ((start : Int) + placed.1) order
  return (placed.2.name, v)

section
variable {layout : Layout} {buffer : Bytes} {items : Items Value}

theorem unpackSlots_eq_mapM (layout : Layout) (buffer : Bytes) (start : Nat)
    (placed : List (Nat × Slot)) :
    layout.unpackSlots buffer start placed =
      placed.mapM (entryAt layout.order buffer start) := by
  induction placed with
  | nil => rfl
  | cons first rest ih =>
    obtain ⟨offset, slot⟩ := first
    rw [unpackSlots, ih, List.mapM_cons, entryAt, bind_assoc]
    simp only [pure_bind]

theorem map_snd_placedFrom (o : Nat) (slots : List Slot) :
    (placedFrom o slots).map Prod.snd = slots := by
  induction slots generalizing o with
  | nil => rfl
  | cons slot rest ih => rw [placedFrom, List.map_cons, ih]

theorem le_of_mem_placedFrom {o : Nat} {slots : List Slot} {placed : Nat × Slot}
    (hm : placed ∈ placedFrom o slots) :
    placed.2 ∈ slots ∧ o ≤ placed.1 ∧ placed.1 + placed.2.size ≤ o + extent slots := by
  induction slots generalizing o with
  | nil => exact absurd hm List.not_mem_nil
  | cons slot rest ih =>
    rw [extent_cons]
    rcases List.mem_cons.mp hm with rfl | hm
    · exact ⟨List.mem_cons_self, Nat.le_refl o, by dsimp only; omega⟩
    · obtain ⟨hs, hl, hr⟩ := ih hm
      exact ⟨List.mem_cons_of_mem _ hs, by omega, by omega⟩

theorem exists_split_of_placedFrom {o : Nat} {slots : List Slot} {p : Nat × Slot}
    (hp : p ∈ placedFrom o slots) :
    ∃ before after, slots = before ++ p.2 :: after ∧ p.1 = o + extent before := by
  induction slots generalizing o with
  | nil => exact absurd hp List.not_mem_nil
  | cons slot rest ih =>
    rcases List.mem_cons.mp hp with rfl | hp
    · exact ⟨[], rest, rfl, rfl⟩
    · obtain ⟨before, after, rfl, he⟩ := ih hp
      exact ⟨slot :: before, after, rfl, by rw [he, extent_cons, Nat.add_assoc]⟩

theorem le_of_mem_placed {placed : Nat × Slot} (hm : placed ∈ layout.placed) :
    placed.2 ∈ layout.slots ∧ placed.1 + placed.2.size ≤ layout.size := by
  obtain ⟨hs, -, hle⟩ := le_of_mem_placedFrom hm
  rw [Nat.zero_add] at hle
  exact ⟨hs, hle⟩

theorem result_entryAt_eq_ok_iff {order : ByteOrder} {start : Nat} {placed : Nat × Slot}
    {entry : String × Value} :
    (entryAt order buffer start placed).result = .ok entry ↔ placed.2.name = entry.1 ∧
      (placed.2.field.decode (.bytes buffer) ((start : Int) + placed.1) order).result =
        .ok entry.2 := by
  rw [entryAt, Logged.result_bind_eq_ok_iff]
  constructor
  · rintro ⟨v, hv, h⟩
    obtain rfl := Except.ok.inj h
    exact ⟨rfl, hv⟩
  · rintro ⟨hn, hv⟩
    exact ⟨entry.2, hv, by rw [hn]; rfl⟩

theorem names_of_mapM_entryAt {order : ByteOrder} {start : Nat} {placed : List (Nat × Slot)}
    {entries : List (String × Value)}
    (h : (placed.mapM (entryAt order buffer start)).result = .ok entries) :
    entries.map Prod.fst = placed.map fun p => p.2.name := by
  have hall := Logged.result_mapM_eq_ok_iff.mp h
  clear h
  induction hall with
  | nil => rfl
  | cons hfirst _ ih =>
    have hn := (result_entryAt_eq_ok_iff.mp hfirst).1
    rw [List.map_cons, List.map_cons, ih, hn]

theorem names_placed (layout : Layout) :
    (layout.placed.map fun p => p.2.name) = layout.names := by
  have h := congrArg (List.map Slot.name) (map_snd_placedFrom 0 layout.slots)
  rwa [List.map_map] at h

theorem unpack_of_inside {o : Nat} (hb : o + layout.size ≤ buffer.length) :
    layout.unpack buffer o =
      Items.ofList <$> layout.placed.mapM (entryAt layout.order buffer o) := by
  have hc : (0 : Int) ≤ o ∧ (o : Int) + layout.size ≤ buffer.length := by omega
  rw [unpack, unpackWithin, if_pos hc, Int.toNat_natCast, unpackSlots_eq_mapM, map_eq_pure_bind]

theorem unpack_of_outside {o : Int} (hb : ¬(0 ≤ o ∧ o + layout.size ≤ buffer.length)) :
    layout.unpack buffer o = .ofResult (.error (layout.outside layout.size buffer (.int o))) := by
  rw [unpack, unpackWithin, if_neg hb]

/-- Inside the buffer the entries are those of the slots. -/
theorem entries_map_unpack {o : Nat} (hb : o + layout.size ≤ buffer.length) :
    Items.entries <$> layout.unpack buffer o =
      layout.placed.mapM (entryAt layout.order buffer o) := by
  rw [unpack_of_inside hb, ← comp_map]
  apply Logged.map_eq_self
  intro entries h
  apply Items.entries_ofList
  rw [names_of_mapM_entryAt h, names_placed]
  exact layout.distinct

theorem unpack_eq_ok_iff {o : Nat} (hb : o + layout.size ≤ buffer.length) :
    (layout.unpack buffer o).result = .ok items ↔
      (layout.placed.mapM (entryAt layout.order buffer o)).result = .ok items.entries := by
  rw [← entries_map_unpack hb, Logged.result_map_eq_ok_iff]
  constructor
  · intro h
    exact ⟨items, h, rfl⟩
  · rintro ⟨items', h, he⟩
    rwa [Items.ext he] at h

theorem names_of_unpack {o : Nat} (hb : o + layout.size ≤ buffer.length)
    (h : (layout.unpack buffer o).result = .ok items) : items.names = layout.names := by
  have hn := names_of_mapM_entryAt ((unpack_eq_ok_iff hb).mp h)
  exact hn.trans layout.names_placed

/-- Under the name of a slot is what its field has decoded. -/
theorem get?_of_unpack {o : Nat} (hb : o + layout.size ≤ buffer.length)
    (h : (layout.unpack buffer o).result = .ok items) {placed : Nat × Slot}
    (hm : placed ∈ layout.placed) :
    ∃ v, items.get? placed.2.name = some v ∧
      (placed.2.field.decode (.bytes buffer) ((o + placed.1 : Nat) : Int) layout.order).result =
        .ok v := by
  obtain ⟨entry, he, hr⟩ := Logged.exists_of_result_mapM ((unpack_eq_ok_iff hb).mp h) hm
  obtain ⟨hn, hd⟩ := result_entryAt_eq_ok_iff.mp hr
  refine ⟨entry.2, ?_, ?_⟩
  · rw [hn]
    exact Items.get?_of_mem items he
  · rwa [Int.natCast_add]

/-- Fields that read their slots alone read the same in the bytes of the layout alone. -/
theorem unpack_eq_window (hf : ∀ slot ∈ layout.slots, slot.field.ReadsSlot slot.size) {o : Nat}
    (hb : o + layout.size ≤ buffer.length) :
    layout.unpack buffer o = layout.unpack ((buffer.drop o).take layout.size) 0 := by
  have hl := length_take_drop hb
  have hentries : layout.placed.mapM (entryAt layout.order buffer o) =
      layout.placed.mapM (entryAt layout.order ((buffer.drop o).take layout.size) 0) := by
    apply Logged.mapM_congr
    rintro ⟨k, slot⟩ hm
    obtain ⟨hs, hle⟩ := le_of_mem_placed hm
    dsimp only at hle
    have hwindow : (((buffer.drop o).take layout.size).drop k).take slot.size =
        (buffer.drop (o + k)).take slot.size := by
      rw [List.drop_take, List.drop_drop, List.take_take, Nat.min_eq_left (by omega)]
    have h1 := hf slot hs buffer (o + k) layout.order (by omega)
    have h2 := hf slot hs ((buffer.drop o).take layout.size) (0 + k) layout.order (by omega)
    rw [Nat.zero_add, hwindow, ← h1] at h2
    simp only [entryAt, ← Int.natCast_add, Nat.zero_add, h2]
  have h0 := unpack_of_inside (Nat.le_of_eq ((Nat.zero_add _).trans hl.symm))
  rw [unpack_of_inside hb, hentries, ← h0]
  rfl

theorem exists_unpack_of_decodes {o : Nat} (hb : o + layout.size ≤ buffer.length)
    (hd : ∀ placed ∈ layout.placed, o + placed.1 + placed.2.size ≤ buffer.length →
      ∃ v, (placed.2.field.decode (.bytes buffer) ((o + placed.1 : Nat) : Int)
        layout.order).result = .ok v) :
    ∃ items, (layout.unpack buffer o).result = .ok items := by
  have hentries : ∃ entries,
      (layout.placed.mapM (entryAt layout.order buffer o)).result = .ok entries := by
    apply Logged.exists_result_mapM
    intro placed hm
    obtain ⟨-, hle⟩ := le_of_mem_placed hm
    obtain ⟨v, hv⟩ := hd placed hm (by omega)
    exact ⟨(placed.2.name, v), result_entryAt_eq_ok_iff.mpr ⟨rfl, hv⟩⟩
  obtain ⟨entries, he⟩ := hentries
  refine ⟨Items.ofList entries, ?_⟩
  rw [unpack_of_inside hb]
  exact Logged.result_map_eq_ok_iff.mpr ⟨entries, he, rfl⟩

theorem exists_unpack_of_readsAny (hf : ∀ slot ∈ layout.slots, slot.field.ReadsAny slot.size)
    {o : Nat} (hb : o + layout.size ≤ buffer.length) :
    ∃ items, (layout.unpack buffer o).result = .ok items := by
  apply exists_unpack_of_decodes hb
  intro placed hm hslot
  exact hf placed.2 (le_of_mem_placed hm).1 buffer (o + placed.1) layout.order hslot

/-- Built-in fields give a record of any bytes, as far as their enumerations know them. -/
theorem exists_unpack_of_knows (hf : ∀ slot ∈ layout.slots, slot.field.BuiltIn) {o : Int}
    (h0 : 0 ≤ o) (hb : o + layout.size ≤ buffer.length) (hk : layout.KnowsAt buffer o) :
    ∃ items, (layout.unpack buffer o).result = .ok items := by
  obtain ⟨o, rfl⟩ := Int.eq_ofNat_of_zero_le h0
  apply exists_unpack_of_decodes (by omega)
  intro placed hm hslot
  have hknows := hk placed hm
  rw [← Int.natCast_add, slice_eq_take_drop] at hknows
  exact Field.exists_decode_of_knows (hf placed.2 (le_of_mem_placed hm).1) placed.2.sized hslot
    hknows

theorem outside_of_writable {size : Nat} {o : Int} (hs : Text.isWritable size = true)
    (ho : Text.isWritable o = true) :
    layout.outside size buffer (.int o) =
      .layout .unpack [layout.name] (.outside size (.int o) buffer.length) :=
  Fault.telling_of_writable hs ho _ _

end

/-- Where the bytes of the layout lie in the buffer, built-in fields give a record under the
declared names, whose values are the same in every buffer that has the same bytes in that place.
Where they do not, that is told, as far as its numbers can be, with no field having a part in it.
Only an enumeration that answers for itself may fail, on a value that none of its members has. -/
theorem unpack_outcome {layout : Layout} (hf : ∀ slot ∈ layout.slots, slot.field.BuiltIn)
    (cls : RecordClass Value) (b : Bytes) (o : Int) :
    (0 ≤ o → o + layout.size ≤ b.length →
      (layout.KnowsAt b o → ∃ items record, (layout.unpack b o).result = .ok items ∧
        Record.create cls (some layout) items = .ok record ∧
        record.items.names = layout.names) ∧
      ∀ (b' : Bytes) (o' : Int), 0 ≤ o' → o' + layout.size ≤ b'.length →
        slice b' o' (o' + layout.size) = slice b o (o + layout.size) →
        layout.unpack b' o' = layout.unpack b o) ∧
    (¬(0 ≤ o ∧ o + layout.size ≤ b.length) →
      (layout.unpack b o).warnings = [] ∧
      (∃ fault, (layout.unpack b o).result = .error fault ∧
        (Text.isWritable layout.size = true → Text.isWritable o = true →
          fault = .layout .unpack [layout.name] (.outside layout.size (.int o) b.length))) ∧
      ∀ other : Layout, other.name = layout.name → other.size = layout.size →
        other.unpack b o = layout.unpack b o) := by
  constructor
  · intro h0 hb
    obtain ⟨o, rfl⟩ := Int.eq_ofNat_of_zero_le h0
    have hbn : o + layout.size ≤ b.length := by omega
    constructor
    · intro hk
      obtain ⟨items, hu⟩ := exists_unpack_of_knows hf h0 hb hk
      exact ⟨items, _, hu, rfl, names_of_unpack hbn hu⟩
    · intro b' o' h0' hb' hs
      obtain ⟨o', rfl⟩ := Int.eq_ofNat_of_zero_le h0'
      have hlocal : ∀ slot ∈ layout.slots, slot.field.ReadsSlot slot.size := fun slot hm =>
        Field.readsSlot_of_builtIn (hf slot hm) slot.sized
      rw [slice_eq_take_drop, slice_eq_take_drop] at hs
      rw [unpack_eq_window hlocal hbn, unpack_eq_window hlocal (by omega), hs]
  · intro hb
    rw [unpack_of_outside hb]
    refine ⟨rfl, ⟨_, rfl, outside_of_writable⟩, ?_⟩
    intro other hname hsize
    have hb' : ¬(0 ≤ o ∧ o + other.size ≤ b.length) := by
      rwa [hsize]
    rw [unpack_of_outside hb', outside, outside, hname, hsize]

theorem builtIn_switchLayout (e : Enumeration) :
    ∀ slot ∈ (switchLayout e).slots, slot.field.BuiltIn := by
  intro slot hs
  simp only [switchLayout, List.mem_cons, List.not_mem_nil, or_false] at hs
  rcases hs with rfl | rfl
  · exact .integer ..
  · exact .bits _

/-- Inside, with a member to be found, the same bytes behind another prefix, and outside. -/
theorem unpack_switch :
    (∃ items record, ((switchLayout ruled).unpack [9, 2, 7, 8, 9] 1).result = .ok items ∧
      Record.create RecordClass.base (some (switchLayout ruled)) items = .ok record ∧
      record.items.names = ["state", "rest"]) ∧
    (switchLayout ruled).unpack [2, 7, 8] 0 = (switchLayout ruled).unpack [9, 2, 7, 8, 9] 1 ∧
    ((switchLayout ruled).unpack [9, 2, 7, 8, 9] 3).result =
      .error (.layout .unpack [.ofString "Switch"] (.outside 3 (.int 3) 5)) := by
  have hf := builtIn_switchLayout ruled
  have hinside := (unpack_outcome hf RecordClass.base [9, 2, 7, 8, 9] 1).1 (by decide) (by decide)
  have houtside := (unpack_outcome hf RecordClass.base [9, 2, 7, 8, 9] 3).2 (by decide)
  have hknows : (switchLayout ruled).KnowsAt [9, 2, 7, 8, 9] 1 := by
    intro place hm
    simp only [placed, placedFrom, switchLayout, List.mem_cons, List.not_mem_nil, or_false] at hm
    rcases hm with rfl | rfl
    · intro v hv
      obtain rfl := Except.ok.inj hv
      exact .inl rfl
    · trivial
  refine ⟨hinside.1 hknows, hinside.2 [2, 7, 8] 0 (by decide) (by decide) rfl, ?_⟩
  obtain ⟨-, ⟨fault, hr, htold⟩, -⟩ := houtside
  have hsize : Text.isWritable ((switchLayout ruled).size : Int) = true :=
    Text.isWritable_of_lt_pow (k := 1) (by decide) (by decide)
  have ho : Text.isWritable 3 = true := Text.isWritable_of_lt_pow (k := 1) (by decide) (by decide)
  rw [hr, htold hsize ho]
  rfl

def plainLayout (name : String) (n : Nat) (hn : 0 < n) : Layout where
  name := .ofString "Plain"
  order := .little
  slots := [⟨name, .bytes (.int n), n, Field.slotSize?_bytes hn⟩]
  distinct := List.pairwise_singleton _ _

section
variable {name : String} {n : Nat} (hn : 0 < n)

theorem builtIn_plainLayout : ∀ slot ∈ (plainLayout name n hn).slots, slot.field.BuiltIn := by
  intro slot hs
  obtain rfl := List.mem_singleton.mp hs
  exact .bytes _

theorem plainLayout_exceeds {b : Bytes} (hb : b.length < n) :
    ¬((0 : Int) + (plainLayout name n hn).size ≤ b.length) := by
  have hs : (plainLayout name n hn).size = n := Nat.add_zero n
  omega

theorem unpack_plainLayout (hw : Text.isWritable n = false) {b : Bytes} (hb : b.length < n) :
    ((plainLayout name n hn).unpack b 0).result = .error (.bare .badValue) := by
  have hs : (plainLayout name n hn).size = n := Nat.add_zero n
  have hall : ([Value.int (plainLayout name n hn).size, .int 0].all fun v =>
      v.asInt?.all Text.isWritable) = false := by
    rw [hs, List.all_cons, Value.asInt?_int, Option.all_some, hw, Bool.false_and]
  rw [unpack_of_outside fun h => plainLayout_exceeds hn hb h.2, outside, Fault.telling, hall]
  rfl

end

/-- That fields are built in and members are integers is not enough: the rule of an enumeration
may fail inside the buffer, and outside of it a size without a numeral is not told. -/
theorem unpack_fails_otherwise :
    ((∀ slot ∈ (switchLayout ruled).slots, slot.field.BuiltIn) ∧
      (∀ member ∈ ruled.members, member.2.isInt = true) ∧
      (0 : Int) + (switchLayout ruled).size ≤ ([1, 7, 8] : Bytes).length ∧
      ((switchLayout ruled).unpack [1, 7, 8] 0).result = .error (.bare .wrongType)) ∧
    ∃ hn : 0 < Nat.pow 10 Text.digitLimit,
      (∀ slot ∈ (plainLayout "rest" _ hn).slots, slot.field.BuiltIn) ∧
      ¬((0 : Int) + (plainLayout "rest" _ hn).size ≤ ([7] : Bytes).length) ∧
      ((plainLayout "rest" _ hn).unpack [7] 0).result = .error (.bare .badValue) := by
  have hpow : ∀ k, 0 < k → 1 < Nat.pow 10 k := fun k hk =>
    Nat.one_lt_pow (Nat.ne_of_gt hk) (by decide)
  have hlarge := hpow Text.digitLimit (by decide)
  have hn := Nat.lt_trans Nat.one_pos hlarge
  have hwritable := Text.isWritable_pow (Nat.le_refl Text.digitLimit)
  exact ⟨⟨builtIn_switchLayout ruled, by decide, by decide, rfl⟩, hn, builtIn_plainLayout hn,
    plainLayout_exceeds hn hlarge, unpack_plainLayout hn hwritable hlarge⟩

end Layout

end ByteLayout
