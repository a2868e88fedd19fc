import ByteLayout.Field.Codecs
import ByteLayout.Layout.Pack

/-! # How packing ends

Packing ends in one of four ways: a declared name has no value, no buffer can be as long as the
layout, a field fails, or there are bytes. `Layout.Outcome` says which, for fields of any kind; the
fields that it speaks of are the only ones that are encoded, so nothing depends on those behind the
one that fails.
-/
namespace ByteLayout

/-- The kinds of fault by which a codec refuses a value: faults of formats, types, values, texts
that cannot be written, sizes and positions, and what a caller derives from one of these. -/
inductive PlainFault.Refuses : PlainFault → Prop
  | badFormat : Refuses .badFormat
  | wrongType : Refuses .wrongType
  | badValue : Refuses .badValue
  | badValueCalled (name : String) : Refuses (.badValueCalled name)
  | unencodable : Refuses .unencodable
  | tooLarge : Refuses .tooLarge
  | outOfRange : Refuses .outOfRange
  | foreign (name : String) : Refuses (.foreign name true)

theorem PlainFault.refuses_iff {kind : PlainFault} : kind.Refuses ↔ kind.isRefusal = true := by
  constructor
  · rintro (_ | _) <;> rfl
  · intro h
    cases kind with
    | foreign name refusal =>
      obtain rfl : refusal = true := h
      exact .foreign name
    | badValueCalled name => exact .badValueCalled name
    | _ => first | cases h; done | constructor

inductive Fault.ToldBy (layoutName : Value) (fieldName : String) : Fault → Fault → Prop
  /-- A fault of a layout keeps its kind and its reason, and its chain grows at the front. -/
  | layout (kind : LayoutFault) (chain : List Value) (reason : Reason) :
      ToldBy layoutName fieldName (.layout kind chain reason)
        (.layout kind (layoutName :: .ofString fieldName :: chain) reason)
  | refused {kind : PlainFault} (reason : Reason) (h : kind.Refuses) :
      ToldBy layoutName fieldName (.plain kind reason)
        (.layout .pack [layoutName, .ofString fieldName] reason)
  | passed {kind : PlainFault} (reason : Reason) (h : ¬kind.Refuses) :
      ToldBy layoutName fieldName (.plain kind reason) (.plain kind reason)

theorem Fault.toldBy_iff {layoutName : Value} {fieldName : String} {fault told : Fault} :
    fault.ToldBy layoutName fieldName told ↔ told = fault.inField layoutName fieldName := by
  constructor
  · rintro (_ | ⟨reason, h⟩ | ⟨reason, h⟩)
    · rfl
    · rw [inField, if_pos (PlainFault.refuses_iff.mp h)]
    · rw [inField, if_neg (mt PlainFault.refuses_iff.mpr h)]
  · rintro rfl
    cases fault with
    | layout kind chain reason => exact .layout kind chain reason
    | plain kind reason =>
      by_cases h : kind.isRefusal = true
      · rw [inField, if_pos h]
        exact .refused reason (PlainFault.refuses_iff.mpr h)
      · rw [inField, if_neg h]
        exact .passed reason (mt PlainFault.refuses_iff.mp h)

namespace Layout

/-- One field after the other, the first at `start`, is encoded into the buffer that those
before it have left, and leaves `size` bytes. -/
inductive Encodes (order : ByteOrder) (size : Nat) (value? : String → Option Value) :
    Nat → List Slot → Bytes → Bytes → Prop
  | nil (start : Nat) (buffer : Bytes) : Encodes order size value? start [] buffer buffer
  | cons {start : Nat} {slot : Slot} {rest : List Slot} {buffer next final : Bytes} {v : Value}
      (given : value? slot.name = some v)
      (encoded : slot.field.encode buffer start v order = .ok next)
      (kept : next.length = size)
      (more : Encodes order size value? (start + slot.size) rest next final) :
      Encodes order size value? start (slot :: rest) buffer final

inductive FailsIn (layout : Layout) (value? : String → Option Value) (start : Nat) (slot : Slot)
    (buffer : Bytes) : Fault → Prop
  | raised {v : Value} {fault told : Fault} (given : value? slot.name = some v)
      (raises : slot.field.encode buffer start v layout.order = .error fault)
      (tells : fault.ToldBy layout.name slot.name told) :
      FailsIn layout value? start slot buffer told
  | resized {v : Value} {next : Bytes} (given : value? slot.name = some v)
      (encoded : slot.field.encode buffer start v layout.order = .ok next)
      (resizes : next.length ≠ layout.size) :
      FailsIn layout value? start slot buffer
        (.layout .pack [layout.name, .ofString slot.name] .resized)

def Complete (layout : Layout) (value? : String → Option Value) : Prop :=
  ∀ name ∈ layout.names, (value? name).isSome

inductive Outcome (layout : Layout) (value? : String → Option Value) : Except Fault Bytes → Prop
  /-- The first declared name without a value is told, and no field is encoded. -/
  | missing {before after : List String} {name : String}
      (split : layout.names = before ++ name :: after)
      (present : ∀ other ∈ before, (value? other).isSome) (absent : value? name = none) :
      Outcome layout value? (.error (.layout .missing [layout.name, .ofString name]
        (.missingValues (name :: after.filter fun other => (value? other).isNone))))
  /-- There is no buffer of so many bytes, and no field is encoded. -/
  | tooLarge (complete : layout.Complete value?) (large : Value.lengthLimit ≤ layout.size) :
      Outcome layout value? (.error (.bare .tooLarge))
  /-- The first field that fails is told, and none behind it is encoded. -/
  | failed {before after : List Slot} {slot : Slot} {buffer : Bytes} {fault : Fault}
      (complete : layout.Complete value?) (small : layout.size < Value.lengthLimit)
      (split : layout.slots = before ++ slot :: after)
      (encoded : Encodes layout.order layout.size value? 0 before
        (List.replicate layout.size 0) buffer)
      (fails : layout.FailsIn value? (extent before) slot buffer fault) :
      Outcome layout value? (.error fault)
  | packed {bytes : Bytes} (complete : layout.Complete value?)
      (small : layout.size < Value.lengthLimit)
      (encoded : Encodes layout.order layout.size value? 0 layout.slots
        (List.replicate layout.size 0) bytes)
      (sized : bytes.length = layout.size) : Outcome layout value? (.ok bytes)

section
variable {layout : Layout} {value? : String → Option Value} {order : ByteOrder}

theorem Encodes.length_eq {size start : Nat} {slots : List Slot} {buffer final : Bytes}
    (h : Encodes order size value? start slots buffer final) (hb : buffer.length = size) :
    final.length = size := by
  induction h with
  | nil => exact hb
  | cons _ _ kept _ ih => exact ih kept

theorem Encodes.append {size start : Nat} {first second : List Slot} {buffer between final : Bytes}
    (hf : Encodes order size value? start first buffer between)
    (hs : Encodes order size value? (start + extent first) second between final) :
    Encodes order size value? start (first ++ second) buffer final := by
  induction hf with
  | nil => exact hs
  | cons given encoded kept _ ih =>
    rw [extent_cons, ← Nat.add_assoc] at hs
    exact .cons given encoded kept (ih hs)

/-- One step: either the field is encoded and leaves as many bytes, or it fails. -/
theorem packSlot_eq_ok_iff {start size : Nat} {slot : Slot} {v : Value} {buffer next : Bytes} :
    layout.packSlot size start slot v buffer = .ok next ↔
      slot.field.encode buffer start v layout.order = .ok next ∧ next.length = size := by
  unfold packSlot
  cases slot.field.encode buffer start v layout.order with
  | error fault => simp
  | ok packed =>
    dsimp only
    constructor
    · intro h
      split at h
      · next hl =>
        cases h
        exact ⟨rfl, hl⟩
      · cases h
    · rintro ⟨he, hl⟩
      cases he
      exact if_pos hl

theorem packSlot_eq_error_iff {start : Nat} {slot : Slot} {v : Value} {buffer : Bytes}
    {told : Fault} (hv : value? slot.name = some v) :
    layout.packSlot layout.size start slot v buffer = .error told ↔
      layout.FailsIn value? start slot buffer told := by
  unfold packSlot
  constructor
  · intro h
    cases he : slot.field.encode buffer start v layout.order with
    | error fault =>
      rw [he] at h
      exact .raised hv he (Fault.toldBy_iff.mpr (Except.error.inj h).symm)
    | ok packed =>
      simp only [he] at h
      split at h
      · cases h
      · next hl =>
        cases h
        exact .resized hv he hl
  · rintro (⟨given, raises, tells⟩ | ⟨given, encoded, resizes⟩)
    · obtain rfl := Option.some.inj (hv.symm.trans given)
      rw [raises, Fault.toldBy_iff.mp tells]
    · obtain rfl := Option.some.inj (hv.symm.trans given)
      simp only [encoded, if_neg resizes]

/-- The run of the fields, by induction on them. -/
theorem packSlots_eq_ok_iff {slots : List Slot} {start size : Nat} {buffer final : Bytes} :
    layout.packSlots size value? (placedFrom start slots) buffer = .ok final ↔
      Encodes layout.order size value? start slots buffer final := by
  induction slots generalizing start buffer with
  | nil =>
    constructor
    · intro h
      obtain rfl : buffer = final := Except.ok.inj h
      exact .nil start buffer
    · intro h
      cases h
      rfl
  | cons slot rest ih =>
    rw [placedFrom, packSlots]
    constructor
    · intro h
      cases hv : value? slot.name with
      | none =>
        rw [hv] at h
        cases h
      | some v =>
        cases hs : layout.packSlot size start slot v buffer with
        | error fault =>
          simp only [hv, hs] at h
          cases h
        | ok next =>
          simp only [hv, hs] at h
          obtain ⟨he, hl⟩ := packSlot_eq_ok_iff.mp hs
          exact .cons hv he hl (ih.mp h)
    · rintro (_ | ⟨given, encoded, kept, more⟩)
      have hs := packSlot_eq_ok_iff.mpr ⟨encoded, kept⟩
      simp only [given, hs, ih.mpr more]

/-- A run that fails is one that has come to the field that fails. -/
theorem packSlots_eq_error_iff {slots : List Slot} {start : Nat} {buffer : Bytes} {fault : Fault}
    (hc : ∀ slot ∈ slots, (value? slot.name).isSome) :
    layout.packSlots layout.size value? (placedFrom start slots) buffer = .error fault ↔
      ∃ before slot after reached, slots = before ++ slot :: after ∧
        Encodes layout.order layout.size value? start before buffer reached ∧
        layout.FailsIn value? (start + extent before) slot reached fault := by
  induction slots generalizing start buffer with
  | nil =>
    constructor
    · intro h
      cases h
    · rintro ⟨before, slot, after, reached, hs, -⟩
      exact absurd hs.symm (List.append_ne_nil_of_right_ne_nil _ (List.cons_ne_nil _ _))
  | cons slot rest ih =>
    obtain ⟨v, hv⟩ := Option.isSome_iff_exists.mp (hc slot List.mem_cons_self)
    have hrest : ∀ s ∈ rest, (value? s.name).isSome := fun s hs => hc s (List.mem_cons_of_mem _ hs)
    rw [placedFrom, packSlots]
    constructor
    · intro h
      cases hs : layout.packSlot layout.size start slot v buffer with
      | error told =>
        simp only [hv, hs] at h
        cases h
        exact ⟨[], slot, rest, buffer, rfl, .nil .., (packSlot_eq_error_iff hv).mp hs⟩
      | ok next =>
        simp only [hv, hs] at h
        obtain ⟨he, hl⟩ := packSlot_eq_ok_iff.mp hs
        obtain ⟨before, failing, after, reached, rfl, henc, hfail⟩ := (ih hrest).mp h
        refine ⟨slot :: before, failing, after, reached, rfl, .cons hv he hl henc, ?_⟩
        rwa [extent_cons, ← Nat.add_assoc]
    · rintro ⟨before, failing, after, reached, hsplit, henc, hfail⟩
      cases henc with
      | nil =>
        obtain ⟨rfl, -⟩ := List.cons.inj hsplit
        have hs := (packSlot_eq_error_iff hv).mpr hfail
        rw [extent_nil, Nat.add_zero] at hs
        simp only [hv, hs]
      | @cons _ first more _ next _ v' given encoded kept henc =>
        obtain ⟨rfl, rfl⟩ := List.cons.inj hsplit
        obtain rfl := Option.some.inj (hv.symm.trans given)
        rw [extent_cons, ← Nat.add_assoc] at hfail
        have hs := packSlot_eq_ok_iff.mpr ⟨encoded, kept⟩
        have hr := (ih hrest).mpr ⟨more, failing, after, reached, rfl, henc, hfail⟩
        simp only [hv, hs, hr]

theorem missing_eq_cons_iff {name : String} {others : List String} :
    layout.missing value? = name :: others ↔
      ∃ before after, layout.names = before ++ name :: after ∧
        (∀ other ∈ before, (value? other).isSome) ∧ value? name = none ∧
        after.filter (fun other => (value? other).isNone) = others := by
  unfold missing
  rw [List.filter_eq_cons_iff]
  simp only [Option.isNone_iff_eq_none, ← ne_eq, Option.ne_none_iff_isSome]

theorem missing_eq_nil_iff : layout.missing value? = [] ↔ layout.Complete value? := by
  unfold missing Complete
  rw [List.filter_eq_nil_iff]
  simp only [Option.isNone_iff_eq_none, ← ne_eq, Option.ne_none_iff_isSome]

/-- Packing ends as one of the ways says, and in no other. -/
theorem pack_eq_iff {result : Except Fault Bytes} :
    layout.pack value? = result ↔ layout.Outcome value? result := by
  have hz : (List.replicate layout.size (0 : UInt8)).length = layout.size := List.length_replicate
  unfold pack packWithin
  cases hm : layout.missing value? with
  | cons name others =>
    obtain ⟨before, after, split, present, absent, rfl⟩ := missing_eq_cons_iff.mp hm
    have hnot : ¬layout.Complete value? := fun hc => by
      rw [missing_eq_nil_iff.mpr hc] at hm
      cases hm
    constructor
    · rintro rfl
      exact .missing split present absent
    · intro h
      cases h with
      | missing split' present' absent' =>
        have hm' := missing_eq_cons_iff.mpr ⟨_, _, split', present', absent', rfl⟩
        obtain ⟨rfl, hl⟩ := List.cons.inj (hm.symm.trans hm')
        rw [hl]
      | tooLarge complete | failed complete | packed complete => exact absurd complete hnot
  | nil =>
    have complete := missing_eq_nil_iff.mp hm
    have hgiven : ∀ slot ∈ layout.slots, (value? slot.name).isSome := fun slot hs =>
      complete slot.name (List.mem_map_of_mem hs)
    have hmissing : ∀ {before name after}, layout.names = before ++ name :: after →
        value? name ≠ none := fun split absent => by
      have := complete _ (split ▸ List.mem_append_right _ List.mem_cons_self)
      rw [absent] at this
      cases this
    dsimp only
    by_cases large : Value.lengthLimit ≤ layout.size
    · rw [if_pos large]
      constructor
      · rintro rfl
        exact .tooLarge complete large
      · intro h
        cases h with
        | missing split _ absent => exact absurd absent (hmissing split)
        | tooLarge => rfl
        | failed _ small | packed _ small => omega
    rw [if_neg large]
    have small := Nat.lt_of_not_le large
    constructor
    · intro h
      cases result with
      | ok bytes =>
        have encoded := packSlots_eq_ok_iff.mp h
        exact .packed complete small encoded (encoded.length_eq hz)
      | error fault =>
        obtain ⟨before, slot, after, buffer, split, encoded, fails⟩ :=
          (packSlots_eq_error_iff hgiven).mp h
        rw [Nat.zero_add] at fails
        exact .failed complete small split encoded fails
    · intro h
      cases h with
      | missing split _ absent => exact absurd absent (hmissing split)
      | tooLarge _ large' => exact absurd large' large
      | failed _ _ split encoded fails =>
        refine (packSlots_eq_error_iff hgiven).mpr ⟨_, _, _, _, split, encoded, ?_⟩
        rwa [Nat.zero_add]
      | packed _ _ encoded => exact packSlots_eq_ok_iff.mpr encoded

theorem Encodes.congr {given? : String → Option Value} {size start : Nat} {slots : List Slot}
    {buffer final : Bytes} (h : Encodes order size value? start slots buffer final)
    (hg : ∀ slot ∈ slots, given? slot.name = value? slot.name) :
    Encodes order size given? start slots buffer final := by
  induction h with
  | nil => exact .nil ..
  | cons given encoded kept _ ih =>
    exact .cons ((hg _ List.mem_cons_self).trans given) encoded kept
      (ih fun slot hs => hg slot (List.mem_cons_of_mem _ hs))

end

/-- Two layouts of one name, byte order and size have the same fields up to `slot`, which are
given the same values. What is behind `slot`, and what it is given, may differ. -/
structure AlikeUpTo (layout other : Layout) (value? given? : String → Option Value)
    (before : List Slot) (slot : Slot) : Prop where
  name : other.name = layout.name
  order : other.order = layout.order
  size : other.size = layout.size
  slots : ∃ after, layout.slots = before ++ slot :: after
  slots' : ∃ after, other.slots = before ++ slot :: after
  given : ∀ s ∈ before ++ [slot], given? s.name = value? s.name

/-- How packing ends, for fields of any kind: as `Outcome` says. What is told of a missing value or
of a layout that is too large depends on no field, and what is told of the first field that fails
depends on none behind it. -/
theorem pack_outcome (layout : Layout) (value? : String → Option Value) :
    (∀ result, layout.pack value? = result ↔ layout.Outcome value? result) ∧
    (∀ other : Layout, other.name = layout.name → other.names = layout.names →
      ¬layout.Complete value? ∨ Value.lengthLimit ≤ layout.size ∧ other.size = layout.size →
      other.pack value? = layout.pack value?) ∧
    ∀ (other : Layout) (given? : String → Option Value) (before : List Slot) (slot : Slot)
      (buffer : Bytes) (fault : Fault), layout.AlikeUpTo other value? given? before slot →
      layout.size < Value.lengthLimit → layout.Complete value? → other.Complete given? →
      Encodes layout.order layout.size value? 0 before (List.replicate layout.size 0) buffer →
      layout.FailsIn value? (extent before) slot buffer fault →
      layout.pack value? = .error fault ∧ other.pack given? = .error fault := by
  refine ⟨fun result => pack_eq_iff, ?_, ?_⟩
  · intro other hname hnames hends
    have hnot (small : layout.size < Value.lengthLimit) : ¬layout.Complete value? := by
      intro complete
      rcases hends with hnot | ⟨large, -⟩
      · exact hnot complete
      · omega
    cases h : layout.pack value? with
    | ok bytes =>
      cases pack_eq_iff.mp h with
      | packed complete small => exact absurd complete (hnot small)
    | error fault =>
      cases pack_eq_iff.mp h with
      | missing split present absent =>
        rw [← hname]
        exact pack_eq_iff.mpr (.missing (hnames.trans split) present absent)
      | tooLarge complete large =>
        have hsize := (hends.resolve_left (not_not_intro complete)).2
        exact pack_eq_iff.mpr (.tooLarge (fun name hn => complete name (hnames ▸ hn))
          (hsize.symm ▸ large))
      | failed complete small => exact absurd complete (hnot small)
  · intro other given? before slot buffer fault alike small complete complete' encoded fails
    obtain ⟨after, split⟩ := alike.slots
    obtain ⟨after', split'⟩ := alike.slots'
    refine ⟨pack_eq_iff.mpr (.failed complete small split encoded fails), ?_⟩
    have hgiven : given? slot.name = value? slot.name :=
      alike.given slot (List.mem_append_right _ List.mem_cons_self)
    have encoded' : Encodes other.order other.size given? 0 before
        (List.replicate other.size 0) buffer := by
      rw [alike.order, alike.size]
      exact encoded.congr fun s hs => alike.given s (List.mem_append_left _ hs)
    refine pack_eq_iff.mpr (.failed complete' (alike.size.symm ▸ small) split' encoded' ?_)
    cases fails with
    | raised given raises tells =>
      refine .raised (hgiven.trans given) (alike.order ▸ raises) ?_
      rwa [alike.name]
    | resized given encodes resizes =>
      rw [← alike.name]
      exact .resized (hgiven.trans given) (alike.order ▸ encodes) (alike.size ▸ resizes)

def clippedLayout : Layout where
  name := .ofString "Clipped"
  order := .little
  slots :=
    [⟨"id", .uint8 none, 1, rfl⟩,
      ⟨"cut", .custom (.int 1) Codec.removing, 1, rfl⟩,
      ⟨"tail", .custom (.int 1) Codec.byte, 1, rfl⟩]
  distinct := by decide

def clippedValues (name : String) : Option Value :=
  [("tail", Value.ofString "no byte"), ("cut", .none), ("id", .int 7)].lookup name

theorem pack_clipped :
    clippedLayout.pack clippedValues =
      .error (.layout .pack [.ofString "Clipped", .ofString "cut"] .resized) := by
  have complete : clippedLayout.Complete clippedValues := by
    intro name hn
    simp only [names, clippedLayout, List.map_cons, List.map_nil, List.mem_cons,
      List.not_mem_nil, or_false] at hn
    rcases hn with rfl | rfl | rfl <;> rfl
  have encoded : Encodes clippedLayout.order clippedLayout.size clippedValues 0
      [⟨"id", .uint8 none, 1, rfl⟩] (List.replicate clippedLayout.size 0) [7, 0, 0] :=
    .cons rfl rfl rfl (.nil ..)
  exact ((pack_outcome clippedLayout clippedValues).1 _).mpr
    (.failed complete (by decide) rfl encoded (.resized rfl rfl (by decide)))

def vastLayout : Layout where
  name := .ofString "Vast"
  order := .big
  slots :=
    [⟨"id", .uint8 none, 1, rfl⟩,
      ⟨"rest", .bytes (.int Value.lengthLimit), Value.lengthLimit, by decide⟩]
  distinct := by decide

def vastValues (name : String) : Option Value :=
  [("id", Value.ofString "no byte"), ("rest", .bytes [])].lookup name

/-- The first field fails in whatever buffer it is given, but what is told is that there is none. -/
theorem pack_vast :
    vastLayout.Complete vastValues ∧
    (∀ buffer : Bytes, 0 < buffer.length →
      (Field.uint8 none).encode buffer 0 (.ofString "no byte") .big =
        .error (.unplaced .unworded)) ∧
    vastLayout.pack vastValues = .error (.bare .tooLarge) := by
  have complete : vastLayout.Complete vastValues := by
    intro name hn
    simp only [names, vastLayout, List.map_cons, List.map_nil, List.mem_cons, List.not_mem_nil,
      or_false] at hn
    rcases hn with rfl | rfl <;> rfl
  refine ⟨complete, ?_, pack_eq_iff.mpr (.tooLarge complete (by decide))⟩
  intro buffer hb
  have hplace : window? buffer.length 1 0 = some 0 := by
    rw [window?, if_neg (by decide), if_pos (by omega)]
    rfl
  have hsize : (⟨"B", [⟨.integer false 1, 1⟩]⟩ : Format).size = 1 := rfl
  have hone : (⟨"B", [⟨.integer false 1, 1⟩]⟩ : Format).values = 1 := rfl
  simp only [Field.encode, Field.uint8, Field.integer, Field.encodeNumber, Field.putNumber, hsize,
    hone, hplace]
  rfl

end Layout

end ByteLayout
