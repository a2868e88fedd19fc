import ByteLayout.Proofs.Layout.Composition
import ByteLayout.Proofs.Record.Clone
import Mathlib.Data.List.Nodup

/-! # Records that are edited

A record is packed into the bytes of the values that were written last, in whatever order its
items have come to stand and whatever else it holds. An edit of one declared name is seen in the
slot of that name and nowhere else.
-/
namespace ByteLayout

inductive Edit where
  | set (name : String) (v : Value)
  | assign (name : String) (v : Value)
  | erase (name : String)

namespace Edit

def name : Edit → String
  | set name _ | assign name _ | erase name => name

def left? : Edit → Option Value
  | set _ v | assign _ v => some v
  | erase _ => none

/-- What is held under a name after some edits: the last edit of that name decides, and the start
where there is none. -/
def held (start : String → Option Value) (edits : List Edit) (name : String) : Option Value :=
  match (edits.filter (·.name == name)).getLast? with
  | some edit => edit.left?
  | none => start name

theorem held_cons {start next : String → Option Value} {edit : Edit} {name : String}
    (h : next name = if edit.name = name then edit.left? else start name) (rest : List Edit) :
    held start (edit :: rest) name = held next rest name := by
  unfold held
  by_cases hn : edit.name = name
  · rw [if_pos hn] at h
    rw [List.filter_cons, if_pos (beq_iff_eq.mpr hn), List.getLast?_cons]
    cases (rest.filter (·.name == name)).getLast? with
    | none => exact h.symm
    | some last => rfl
  · rw [if_neg hn] at h
    have hb : ¬(edit.name == name) = true := fun hb => hn (beq_iff_eq.mp hb)
    rw [List.filter_cons, if_neg hb, h]

end Edit

namespace Layout
variable {layout : Layout} {value? given? : String → Option Value}

theorem contains_of_mem_names {name : String} (h : name ∈ layout.names) :
    layout.contains name = true := by
  obtain ⟨slot, hs, rfl⟩ := List.mem_map.mp h
  rw [contains, field?_slot hs]
  rfl

theorem packSlots_congr {size : Nat} {slots : List (Nat × Slot)}
    (h : ∀ p ∈ slots, value? p.2.name = given? p.2.name) (buffer : Bytes) :
    layout.packSlots size value? slots buffer = layout.packSlots size given? slots buffer := by
  induction slots generalizing buffer with
  | nil => rfl
  | cons p rest ih =>
    obtain ⟨offset, slot⟩ := p
    have hslot := h (offset, slot) List.mem_cons_self
    have hrest := ih fun q hq => h q (List.mem_cons_of_mem _ hq)
    rw [packSlots, packSlots, hslot]
    simp only [hrest]

/-- Packing asks for the declared names and for no others. -/
theorem pack_congr (h : ∀ name ∈ layout.names, value? name = given? name) :
    layout.pack value? = layout.pack given? := by
  have hmissing : layout.missing value? = layout.missing given? :=
    List.filter_congr fun name hn => by rw [h name hn]
  have hslots : ∀ p ∈ layout.placed, value? p.2.name = given? p.2.name := by
    intro p hp
    have hm : p.2.name ∈ layout.placed.map fun p => p.2.name := List.mem_map_of_mem hp
    rw [names_placed] at hm
    exact h p.2.name hm
  rw [pack, pack, packWithin, packWithin, hmissing]
  simp only [packSlots_congr hslots]

/-- The bytes of a slot stand between those of the slots before it and of the slots behind it. -/
theorem exists_middle_of_packEach {before after : List Slot} {slot : Slot}
    (hf : ∀ other ∈ before ++ slot :: after, other.field.BuiltIn) {bytes : Bytes}
    (h : layout.packEach value? (before ++ slot :: after) = .ok bytes) :
    ∃ x y z, layout.packEach value? before = .ok x ∧ layout.packEach value? after = .ok z ∧
      bytes = x ++ (y ++ z) ∧ x.length = extent before ∧ y.length = slot.size := by
  obtain ⟨x, w, hx, hw, rfl⟩ := packEach_append.mp h
  obtain ⟨v, raw, z, -, hraw, hz, rfl⟩ := packEach_cons_eq_ok_iff.mp hw
  have hbefore : ∀ other ∈ before, other.field.BuiltIn := fun other hm =>
    hf other (List.mem_append_left _ hm)
  have hslot : slot.field.BuiltIn := hf slot (List.mem_append_right _ List.mem_cons_self)
  exact ⟨x, padded slot.size raw, z, hx, hz, rfl, length_packEach hbefore hx,
    Field.length_padded_write hslot slot.sized hraw⟩

/-- The slots on both sides of one have other names. -/
theorem ne_name_of_split {before after : List Slot} {slot : Slot}
    (h : layout.slots = before ++ slot :: after) :
    ∀ other ∈ before ++ after, other.name ≠ slot.name := by
  have hdistinct := layout.distinct
  rw [h, List.map_append, List.map_cons, List.nodup_middle, List.nodup_cons,
    ← List.map_append] at hdistinct
  intro other hm hn
  apply hdistinct.1
  rw [← hn]
  exact List.mem_map_of_mem hm

/-- Another value for one name changes no byte outside the slot of that name. -/
theorem pack_eq_outside (hf : ∀ slot ∈ layout.slots, slot.field.BuiltIn) {p : Nat × Slot}
    (hp : p ∈ layout.placed) (hother : ∀ name, name ≠ p.2.name → given? name = value? name)
    {bytes bytes' : Bytes} (h : layout.pack value? = .ok bytes)
    (h' : layout.pack given? = .ok bytes') :
    bytes'.length = bytes.length ∧
      ∀ i, i < p.1 ∨ p.1 + p.2.size ≤ i → bytes'[i]? = bytes[i]? := by
  obtain ⟨before, after, hsplit, hstart⟩ := exists_split_of_placedFrom hp
  have hsame : ∀ slot ∈ before ++ after, given? slot.name = value? slot.name := fun slot hs =>
    hother slot.name (ne_name_of_split hsplit slot hs)
  have hbefore : layout.packEach given? before = layout.packEach value? before :=
    packEach_congr fun slot hs => hsame slot (List.mem_append_left _ hs)
  have hafter : layout.packEach given? after = layout.packEach value? after :=
    packEach_congr fun slot hs => hsame slot (List.mem_append_right _ hs)
  rw [pack_eq_ok_iff hf, hsplit] at h h'
  rw [hsplit] at hf
  obtain ⟨x, y, z, hx, hz, rfl, hlx, hly⟩ := exists_middle_of_packEach hf h.2
  obtain ⟨x', y', z', hx', hz', rfl, -, hly'⟩ := exists_middle_of_packEach hf h'.2
  obtain rfl : x = x' := Except.ok.inj (hx.symm.trans (hbefore.symm.trans hx'))
  obtain rfl : z = z' := Except.ok.inj (hz.symm.trans (hafter.symm.trans hz'))
  have hl : x.length = p.1 := by rw [hlx, hstart, Nat.zero_add]
  refine ⟨by simp only [List.length_append, hly, hly'], fun i hi => ?_⟩
  exact getElem?_append_middle (hly'.trans hly.symm) (by rwa [hl, hly])

end Layout

namespace Record

def valueViews : Views Value where
  layout? _ := none
  cls? _ := none
  items? v :=
    match v with
    | .table entries => some (Items.ofList (entries.filterMap named?))
    | _ => none
where
  named? (entry : Value × Value) : Option (String × Value) :=
    match entry.1 with
    | .text t => t.toString?.map fun name => (name, entry.2)
    | _ => none

def edited (r : Record Value) : Edit → Except Fault (Record Value)
  | .set name v => .ok (r.set name v)
  | .assign name v => r.assign valueViews name v
  | .erase name => r.erase name

/-- The record after an edit that was tried; one that fails leaves it as it was. -/
def tried (r : Record Value) (edit : Edit) : Record Value := (r.edited edit).toOption.getD r

def after (r : Record Value) (edits : List Edit) : Record Value := edits.foldl tried r

variable {r : Record Value}

theorem assign_declared {name : String} (h : r.layout.contains name = true) (v : Value) :
    r.assign valueViews name v = .ok (r.set name v) := by
  have hp : r.partOf name = .ok .item := if_pos h
  rw [assign, hp]
  rfl

theorem partOf_undeclared {name : String} (h : r.layout.contains name = false) :
    r.partOf name ≠ .ok .item := by
  unfold partOf
  rw [h, if_neg Bool.false_ne_true]
  split_ifs
  · exact nofun
  · exact nofun
  · exact nofun
  · split <;> exact nofun
  · split <;> exact nofun

/-- An undeclared name that is assigned is no item. -/
theorem items_assign_undeclared {name : String} (h : r.layout.contains name = false) {v : Value}
    {next : Record Value} (ha : r.assign valueViews name v = .ok next) :
    next.layout = r.layout ∧ next.items = r.items := by
  unfold assign at ha
  cases hp : r.partOf name with
  | error fault =>
    rw [hp] at ha
    cases ha
  | ok part =>
    rw [hp] at ha
    cases part with
    | item => exact absurd hp (partOf_undeclared h)
    | layout => cases ha
    | cls => cases ha
    | extra =>
      obtain rfl := Except.ok.inj ha
      exact ⟨rfl, rfl⟩
    | own =>
      dsimp only [Except.bind] at ha
      split at ha
      · obtain rfl := Except.ok.inj ha
        exact ⟨rfl, rfl⟩
      · cases ha

/-- One edit: under a declared name there is what it leaves there, or what there was. -/
theorem get?_tried (r : Record Value) (edit : Edit) :
    (r.tried edit).layout = r.layout ∧
      ∀ name ∈ r.layout.names, (r.tried edit).items.get? name =
        if edit.name = name then edit.left? else r.items.get? name := by
  cases edit with
  | set given v => exact ⟨rfl, fun name _ => Items.get?_insert r.items given name v⟩
  | assign given v =>
    by_cases hd : r.layout.contains given = true
    · rw [tried, edited, assign_declared hd]
      exact ⟨rfl, fun name _ => Items.get?_insert r.items given name v⟩
    · have hkept : (r.tried (.assign given v)).layout = r.layout ∧
          (r.tried (.assign given v)).items = r.items := by
        rw [tried, edited]
        cases ha : r.assign valueViews given v with
        | error fault => exact ⟨rfl, rfl⟩
        | ok next => exact items_assign_undeclared (eq_false_of_ne_true hd) ha
      refine ⟨hkept.1, fun name hn => ?_⟩
      have hne : given ≠ name := by
        rintro rfl
        exact hd (Layout.contains_of_mem_names hn)
      rw [hkept.2]
      exact (if_neg hne).symm
  | erase given =>
    rw [tried, edited, erase]
    by_cases hc : r.items.contains given = true
    · rw [if_pos hc]
      exact ⟨rfl, fun name _ => Items.get?_erase r.items given name⟩
    · rw [if_neg hc]
      refine ⟨rfl, fun name _ => ?_⟩
      by_cases hn : given = name
      · rw [Items.contains, Option.not_isSome_iff_eq_none, hn] at hc
        exact hc.trans (if_pos hn).symm
      · exact (if_neg hn).symm

/-- After some edits, the last of each declared name has decided. -/
theorem get?_after (r : Record Value) (edits : List Edit) :
    (r.after edits).layout = r.layout ∧
      ∀ name ∈ r.layout.names,
        (r.after edits).items.get? name = Edit.held r.items.get? edits name := by
  induction edits generalizing r with
  | nil => exact ⟨rfl, fun _ _ => rfl⟩
  | cons edit rest ih =>
    obtain ⟨hlayout, hget⟩ := r.get?_tried edit
    obtain ⟨hlayout', hget'⟩ := ih (r.tried edit)
    refine ⟨hlayout'.trans hlayout, fun name hn => ?_⟩
    have hlast := hget' name (by rwa [hlayout])
    rw [Edit.held_cons (hget name hn), ← hlast]
    rfl

/-- A record is packed as any values are that hold what was written last to each declared name,
and writing to one of them, as an item or as an attribute, changes bytes in its slot only. -/
theorem toBuffer_after (hf : ∀ slot ∈ r.layout.slots, slot.field.BuiltIn) (edits : List Edit) :
    (∀ value? : String → Option Value,
      (∀ name ∈ r.layout.names, value? name = Edit.held r.items.get? edits name) →
      (r.after edits).toBuffer = r.layout.pack value?) ∧
    ∀ p ∈ r.layout.placed, ∀ v, ∀ edit ∈ [Edit.set p.2.name v, Edit.assign p.2.name v],
      ∃ next, (r.after edits).edited edit = .ok next ∧
        ∀ b b', (r.after edits).toBuffer = .ok b → next.toBuffer = .ok b' →
          b'.length = b.length ∧ ∀ i, i < p.1 ∨ p.1 + p.2.size ≤ i → b'[i]? = b[i]? := by
  obtain ⟨hlayout, hget⟩ := r.get?_after edits
  constructor
  · intro value? hv
    rw [toBuffer, hlayout]
    exact Layout.pack_congr fun name hn => by rw [hget name hn, hv name hn]
  · intro p hp v edit he
    have hdeclared : (r.after edits).layout.contains p.2.name = true := by
      rw [hlayout]
      exact Layout.contains_of_mem_names (List.mem_map_of_mem (Layout.le_of_mem_placed hp).1)
    have hset : (r.after edits).edited edit = .ok ((r.after edits).set p.2.name v) := by
      simp only [List.mem_cons, List.not_mem_nil, or_false] at he
      rcases he with rfl | rfl
      · rfl
      · exact assign_declared hdeclared v
    refine ⟨_, hset, fun b b' hb hb' => ?_⟩
    rw [toBuffer, hlayout] at hb
    have hb' : r.layout.pack ((r.after edits).items.insert p.2.name v).get? = .ok b' := by
      rw [← hlayout]
      exact hb'
    refine Layout.pack_eq_outside hf hp (fun name hn => ?_) hb hb'
    rw [Items.get?_insert, if_neg hn.symm]

/-- Fields with the names of operations of records. -/
def ledgerLayout : Layout where
  name := .ofString "Ledger"
  order := .big
  slots :=
    [⟨"clone", .int16 none, 2, rfl⟩, ⟨"items", .bytes (.int 3), 3, rfl⟩,
      ⟨"copy", .int32 none, 4, rfl⟩]
  distinct := by decide

def ledger : Record Value where
  cls := RecordClass.base
  layout := ledgerLayout
  items := Items.ofList [("clone", .int 1), ("items", .bytes [7, 8, 9]), ("copy", .int (-2))]
  extras := Items.empty

def ledgerEdits : List Edit :=
  [.erase "clone", .set "note" (.int 9), .assign "items" (.bytes [5]), .erase "absent",
    .set "clone" (.int 258), .assign "items" (.bytes [6, 6])]

theorem toBuffer_ledger :
    (ledger.after ledgerEdits).toBuffer =
      ledgerLayout.pack
        ([("items", .bytes [6, 6]), ("copy", .int (-2)), ("clone", .int 258)].lookup ·) ∧
    ∃ next, (ledger.after ledgerEdits).edited (.assign "items" (.bytes [4])) = .ok next ∧
      (ledger.after ledgerEdits).toBuffer = .ok [1, 2, 6, 6, 0, 255, 255, 255, 254] ∧
      next.toBuffer = .ok [1, 2, 4, 0, 0, 255, 255, 255, 254] ∧
      ∀ i, i < 2 ∨ 5 ≤ i →
        ([1, 2, 4, 0, 0, 255, 255, 255, 254] : Bytes)[i]? =
          ([1, 2, 6, 6, 0, 255, 255, 255, 254] : Bytes)[i]? := by
  have hf : ∀ slot ∈ ledger.layout.slots, slot.field.BuiltIn := by
    intro slot hs
    simp only [ledger, ledgerLayout, List.mem_cons, List.not_mem_nil, or_false] at hs
    rcases hs with rfl | rfl | rfl
    · exact .integer ..
    · exact .bytes _
    · exact .integer ..
  obtain ⟨hpack, hslot⟩ := toBuffer_after hf ledgerEdits
  constructor
  · apply hpack
    intro name hn
    simp only [Layout.names, ledger, ledgerLayout, List.map_cons, List.map_nil, List.mem_cons,
      List.not_mem_nil, or_false] at hn
    rcases hn with rfl | rfl | rfl <;> rfl
  · have hitems : (2, ⟨"items", .bytes (.int 3), 3, rfl⟩) ∈ ledger.layout.placed :=
      List.mem_cons_of_mem _ List.mem_cons_self
    obtain ⟨next, he, hframe⟩ :=
      hslot _ hitems (.bytes [4]) _ (List.mem_cons_of_mem _ List.mem_cons_self)
    obtain rfl := Except.ok.inj he
    exact ⟨_, rfl, rfl, rfl, (hframe _ _ rfl rfl).2⟩

end Record

end ByteLayout
