import ByteLayout.Proofs.Field.Copied
import ByteLayout.Proofs.Layout.Slots
import ByteLayout.Record
import Mathlib.Data.List.Forall2

/-! # Clones of records

A clone is a record of the same class, the same layout and the same names. It is packed into the
same bytes exactly when each field keeps the copy of its value.
-/
namespace ByteLayout

namespace Layout
variable {layout : Layout} {value? given? : String → Option Value}

theorem field?_slot {slot : Slot} (hs : slot ∈ layout.slots) :
    layout.field? slot.name = some slot.field :=
  Items.get?_of_mem layout.fields (List.mem_map_of_mem hs)

theorem exists_slot_of_field? {name : String} {field : Field}
    (h : layout.field? name = some field) :
    ∃ slot ∈ layout.slots, slot.name = name ∧ slot.field = field := by
  obtain ⟨before, after, hl, -⟩ := List.lookup_eq_some_iff.mp h
  have hm : (name, field) ∈ layout.fields.entries := hl ▸ by simp
  obtain ⟨slot, hs, he⟩ := List.mem_map.mp hm
  cases he
  exact ⟨slot, hs, rfl, rfl⟩

def FillsAlike (order : ByteOrder) (slot : Slot) (v w : Value) : Prop :=
  ∃ raw raw', slot.field.write slot.size v order = .ok raw ∧
    slot.field.write slot.size w order = .ok raw' ∧ padded slot.size raw' = padded slot.size raw

/-- Other values are packed into the same bytes when they fill each slot alike. -/
theorem packEach_alike_iff {slots : List Slot} (hf : ∀ slot ∈ slots, slot.field.BuiltIn)
    {bytes : Bytes} (h : layout.packEach value? slots = .ok bytes) :
    layout.packEach given? slots = .ok bytes ↔
      ∀ slot ∈ slots, ∃ v w, value? slot.name = some v ∧ given? slot.name = some w ∧
        FillsAlike layout.order slot v w := by
  induction slots generalizing bytes with
  | nil =>
    cases h
    exact iff_of_true rfl fun _ hm => absurd hm List.not_mem_nil
  | cons slot rest ih =>
    obtain ⟨v, raw, more, hv, hw, hr, rfl⟩ := packEach_cons_eq_ok_iff.mp h
    have hslot := hf slot List.mem_cons_self
    have ih := ih (fun s hs => hf s (List.mem_cons_of_mem _ hs)) hr
    have hl : ∀ {u raw}, slot.field.write slot.size u layout.order = .ok raw →
        (padded slot.size raw).length = slot.size :=
      fun hu => Field.length_padded_write hslot slot.sized hu
    rw [List.forall_mem_cons, ← ih, packEach_cons_eq_ok_iff]
    constructor
    · rintro ⟨w, raw', more', hg, hw', hr', he⟩
      obtain ⟨hp, rfl⟩ := List.append_inj he ((hl hw).trans (hl hw').symm)
      exact ⟨⟨v, w, hv, hg, raw, raw', hw, hw', hp.symm⟩, hr'⟩
    · rintro ⟨⟨v', w, hv', hg, raw₁, raw', hw₁, hw', hp⟩, hr'⟩
      obtain rfl : v' = v := Option.some.inj (hv'.symm.trans hv)
      obtain rfl : raw₁ = raw := Except.ok.inj (hw₁.symm.trans hw)
      exact ⟨w, raw', more, hg, hw', hr', by rw [hp]⟩

end Layout

namespace Record

def copyOf (layout : Layout) (name : String) (v : Value) : Except Fault Value :=
  match layout.field? name with
  | some field => field.copy v
  | none => .ok v

theorem copyOf_declared {layout : Layout} {name : String} {field : Field}
    (h : layout.field? name = some field) (v : Value) : copyOf layout name v = field.copy v := by
  rw [copyOf, h]

theorem copyOf_other {layout : Layout} {name : String} (h : layout.field? name = none)
    (v : Value) : copyOf layout name v = .ok v := by
  rw [copyOf, h]

def Copies (layout : Layout) (item copied : String × Value) : Prop :=
  copied.1 = item.1 ∧ copyOf layout item.1 item.2 = .ok copied.2

section
variable {layout : Layout} {entries copied : List (String × Value)}

theorem copiedItems_cons (name : String) (v : Value) (rest : List (String × Value)) :
    copiedItems Field.copy layout ((name, v) :: rest) =
      (copyOf layout name v).bind fun w =>
        (copiedItems Field.copy layout rest).map ((name, w) :: ·) := by
  rw [copiedItems]
  cases hd : layout.field? name with
  | none =>
    rw [copyOf_other hd]
    cases copiedItems Field.copy layout rest <;> rfl
  | some field =>
    rw [copyOf_declared hd]
    show (field.copy v >>= fun w => copiedItems Field.copy layout rest >>= _) = _
    cases field.copy v with
    | error fault => rfl
    | ok w => cases copiedItems Field.copy layout rest <;> rfl

theorem copiedItems_eq_ok_iff :
    copiedItems Field.copy layout entries = .ok copied ↔
      List.Forall₂ (Copies layout) entries copied := by
  induction entries generalizing copied with
  | nil =>
    rw [copiedItems, List.forall₂_nil_left_iff]
    exact ⟨fun h => (Except.ok.inj h).symm, fun h => congrArg Except.ok h.symm⟩
  | cons entry rest ih =>
    rw [copiedItems_cons, List.forall₂_cons_left_iff]
    constructor
    · intro h
      cases hc : copyOf layout entry.1 entry.2 with
      | error fault =>
        rw [hc] at h
        cases h
      | ok w =>
        cases hr : copiedItems Field.copy layout rest with
        | error fault =>
          rw [hc, hr] at h
          cases h
        | ok more =>
          rw [hc, hr] at h
          cases h
          exact ⟨(entry.1, w), more, ⟨rfl, hc⟩, ih.mp hr, rfl⟩
    · rintro ⟨⟨name, w⟩, more, ⟨rfl, hc⟩, hr, rfl⟩
      rw [hc, ih.mpr hr]
      rfl

theorem names_of_copies (h : List.Forall₂ (Copies layout) entries copied) :
    copied.map Prod.fst = entries.map Prod.fst := by
  induction h with
  | nil => rfl
  | cons hc _ ih => rw [List.map_cons, List.map_cons, hc.1, ih]

theorem lookup_of_copies (h : List.Forall₂ (Copies layout) entries copied) {name : String}
    {v : Value} (hv : entries.lookup name = some v) :
    ∃ w, copied.lookup name = some w ∧ copyOf layout name v = .ok w := by
  induction h with
  | nil => cases hv
  | cons hc _ ih =>
    rw [List.lookup_cons] at hv ⊢
    rw [hc.1]
    split at hv
    · next he =>
      obtain rfl := eq_of_beq he
      cases hv
      exact ⟨_, rfl, hc.2⟩
    · exact ih hv

theorem exists_copies (h : ∀ entry ∈ entries, ∃ w, copyOf layout entry.1 entry.2 = .ok w) :
    ∃ copied, List.Forall₂ (Copies layout) entries copied := by
  induction entries with
  | nil => exact ⟨[], .nil⟩
  | cons entry rest ih =>
    obtain ⟨w, hw⟩ := h entry List.mem_cons_self
    obtain ⟨copied, hr⟩ := ih fun other hm => h other (List.mem_cons_of_mem _ hm)
    exact ⟨(entry.1, w) :: copied, .cons ⟨rfl, hw⟩ hr⟩

end

section
variable {r copy : Record Value}

theorem clone_eq_ok_iff :
    r.clone = .ok copy ↔
      ∃ copied, List.Forall₂ (Copies r.layout) r.items.entries copied ∧
        copy = r.renewed copied := by
  have hclone : r.clone =
      (copiedItems Field.copy r.layout r.items.entries).map r.renewed := rfl
  rw [hclone]
  constructor
  · intro h
    cases hc : copiedItems Field.copy r.layout r.items.entries with
    | error fault =>
      rw [hc] at h
      cases h
    | ok copied =>
      rw [hc] at h
      exact ⟨copied, copiedItems_eq_ok_iff.mp hc, (Except.ok.inj h).symm⟩
  · rintro ⟨copied, hc, rfl⟩
    rw [copiedItems_eq_ok_iff.mpr hc]
    rfl

theorem entries_renewed {copied : List (String × Value)}
    (h : List.Forall₂ (Copies r.layout) r.items.entries copied) :
    (r.renewed copied).items.entries = copied := by
  apply Items.entries_ofList
  rw [names_of_copies h]
  exact r.items.distinct

def KeepsCopies (r : Record Value) : Prop :=
  ∀ slot ∈ r.layout.slots, ∀ v, r.items.get? slot.name = some v →
    slot.field.KeepsCopy slot.size v

/-- A copy of the record is packed like the record itself when all fields keep their copies. -/
theorem toBuffer_renewed_iff (hf : ∀ slot ∈ r.layout.slots, slot.field.BuiltIn) {b : Bytes}
    (hb : r.toBuffer = .ok b) {copied : List (String × Value)}
    (hc : List.Forall₂ (Copies r.layout) r.items.entries copied) :
    (r.renewed copied).toBuffer = .ok b ↔ r.KeepsCopies := by
  obtain ⟨hsize, hp⟩ := (Layout.pack_eq_ok_iff hf).mp hb
  have hn : (r.renewed copied).toBuffer = .ok b ↔
      r.layout.packEach (r.renewed copied).items.get? r.layout.slots = .ok b :=
    (Layout.pack_eq_ok_iff hf).trans (and_iff_right hsize)
  rw [hn, Layout.packEach_alike_iff hf hp]
  have hw : ∀ slot ∈ r.layout.slots, ∃ v w raw, r.items.get? slot.name = some v ∧
      (r.renewed copied).items.get? slot.name = some w ∧ slot.field.copy v = .ok w ∧
      slot.field.write slot.size v r.layout.order = .ok raw := by
    intro slot hs
    obtain ⟨v, raw, hv, hraw⟩ := Layout.exists_write_of_packEach hp slot hs
    obtain ⟨w, hw, hcopy⟩ := lookup_of_copies hc hv
    rw [copyOf_declared (Layout.field?_slot hs)] at hcopy
    refine ⟨v, w, raw, hv, ?_, hcopy, hraw⟩
    rwa [Items.get?, entries_renewed hc]
  constructor
  · intro h slot hs v hv
    obtain ⟨v', w, raw, hv', hw', hcopy, hraw⟩ := hw slot hs
    obtain rfl := Option.some.inj (hv'.symm.trans hv)
    obtain ⟨v₁, w₁, hv₁, hw₁, raw₁, raw', h₁, h', he⟩ := h slot hs
    obtain rfl := Option.some.inj (hv₁.symm.trans hv)
    obtain rfl := Option.some.inj (hw₁.symm.trans hw')
    exact (Field.copy_iff (hf slot hs) slot.sized h₁).mp ⟨w₁, raw', hcopy, h', he⟩
  · intro h slot hs
    obtain ⟨v, w, raw, hv, hw', hcopy, hraw⟩ := hw slot hs
    obtain ⟨w₁, raw', hcopy₁, h', he⟩ :=
      (Field.copy_iff (hf slot hs) slot.sized hraw).mpr (h slot hs v hv)
    obtain rfl := Except.ok.inj (hcopy₁.symm.trans hcopy)
    exact ⟨v, w₁, hv, hw', raw, raw', hraw, h', he⟩

/-- Fields that keep their copies have copies to keep. -/
theorem exists_copies_of_keeps (hf : ∀ slot ∈ r.layout.slots, slot.field.BuiltIn) {b : Bytes}
    (hb : r.toBuffer = .ok b) (h : r.KeepsCopies) :
    ∃ copied, List.Forall₂ (Copies r.layout) r.items.entries copied := by
  apply exists_copies
  intro entry he
  cases hd : r.layout.field? entry.1 with
  | none => exact ⟨entry.2, copyOf_other hd _⟩
  | some field =>
    obtain ⟨slot, hs, hname, rfl⟩ := Layout.exists_slot_of_field? hd
    have hv : r.items.get? slot.name = some entry.2 := hname ▸ Items.get?_of_mem r.items he
    obtain ⟨v, raw, hv', hraw⟩ :=
      Layout.exists_write_of_packEach ((Layout.pack_eq_ok_iff hf).mp hb).2 slot hs
    obtain rfl := Option.some.inj (hv'.symm.trans hv)
    obtain ⟨w, -, hcopy, -, -⟩ :=
      (Field.copy_iff (hf slot hs) slot.sized hraw).mpr (h slot hs _ hv)
    exact ⟨w, (copyOf_declared hd _).trans hcopy⟩

/-- A clone has the class of the record, its layout and its names. A record of built-in fields
that can be packed has a clone that is packed into the same bytes exactly when no field of bits
holds an integer and no field of bytes holds bits that are set. -/
theorem clone_outcome (hf : ∀ slot ∈ r.layout.slots, slot.field.BuiltIn) {b : Bytes}
    (hb : r.toBuffer = .ok b) :
    (∀ copy, r.clone = .ok copy →
      copy.cls = r.cls ∧ copy.layout = r.layout ∧ copy.items.names = r.items.names) ∧
      ((∃ copy, r.clone = .ok copy ∧ copy.toBuffer = .ok b) ↔ r.KeepsCopies) := by
  refine ⟨fun copy h => ?_, fun ⟨copy, h, hcopy⟩ => ?_, fun h => ?_⟩
  · obtain ⟨copied, hc, rfl⟩ := clone_eq_ok_iff.mp h
    refine ⟨rfl, rfl, ?_⟩
    rw [Items.names, entries_renewed hc, names_of_copies hc]
    rfl
  · obtain ⟨copied, hc, rfl⟩ := clone_eq_ok_iff.mp h
    exact (toBuffer_renewed_iff hf hb hc).mp hcopy
  · obtain ⟨copied, hc⟩ := exists_copies_of_keeps hf hb h
    exact ⟨_, clone_eq_ok_iff.mpr ⟨copied, hc, rfl⟩, (toBuffer_renewed_iff hf hb hc).mpr h⟩

end

def flagLayout : Layout where
  name := .ofString "Flags"
  order := .little
  slots := [⟨"mask", .bits (.int 3), 3, rfl⟩, ⟨"code", .bytes (.int 4), 4, rfl⟩]
  distinct := by decide

def flagRecord (mask code : Value) : Record Value where
  cls := RecordClass.plain
  layout := flagLayout
  items := ⟨[("mask", mask), ("note", .none), ("code", code)], by simp⟩
  extras := Items.empty

theorem builtIn_flagLayout : ∀ slot ∈ flagLayout.slots, slot.field.BuiltIn := by
  intro slot hs
  simp only [flagLayout, List.mem_cons, List.not_mem_nil, or_false] at hs
  rcases hs with rfl | rfl
  · exact .bits _
  · exact .bytes _

/-- Bits as they are read, and bytes given as a list. -/
theorem clone_flags :
    let r := flagRecord (.bitBuffer (Bits.ofNat 24 8)) (.list [.int 1, .bool true])
    r.toBuffer = .ok [8, 0, 0, 1, 1, 0, 0] ∧
      ∃ copy, r.clone = .ok copy ∧ copy.toBuffer = .ok [8, 0, 0, 1, 1, 0, 0] := by
  refine ⟨rfl, (clone_outcome builtIn_flagLayout rfl).2.mpr fun slot hs v hv => ?_⟩
  simp only [flagLayout, flagRecord, List.mem_cons, List.not_mem_nil, or_false] at hs
  rcases hs with rfl | rfl
  · cases hv
    rfl
  · cases hv
    intro row hrow
    cases hrow

/-- An integer is copied as a row of that many zeros, and bits one to a byte. -/
theorem clone_flags_differs :
    (let r := flagRecord (.int 24) (.list [])
      let copy := flagRecord (.bitBuffer (List.replicate 24 false)) (.buffer [])
      r.toBuffer = .ok [24, 0, 0, 0, 0, 0, 0] ∧ r.clone = .ok copy ∧
        copy.toBuffer = .ok [0, 0, 0, 0, 0, 0, 0]) ∧
    (let r := flagRecord (.bits (Bits.ofNat 24 8)) (.bits [true, false])
      let copy := flagRecord (.bitBuffer (Bits.ofNat 24 8)) (.buffer [1, 0])
      r.toBuffer = .ok [8, 0, 0, 128, 0, 0, 0] ∧ r.clone = .ok copy ∧
        copy.toBuffer = .ok [8, 0, 0, 1, 0, 0, 0]) :=
  ⟨⟨rfl, rfl, rfl⟩, rfl, rfl, rfl⟩

end Record

end ByteLayout
