import ByteLayout.Proofs.Layout.Definition

/-! # Slots without gaps

Which rows of fields can be made a layout, what is told where one cannot, and how the slots of a
layout lie: the first at its start, each where the one before it ends, so that every byte is in
exactly one of them.
-/
namespace ByteLayout

namespace Value

mutual

/-- Whether every integer that the value is or holds has a numeral. -/
def isTellable : Value → Bool
  | int n => Text.isWritable n
  | list items => allTellable items
  | table entries => entriesTellable entries
  | member _ _ value => isTellable value
  | record _ layoutName entries _ => isTellable layoutName && namedTellable entries
  | layout _ name size => isTellable name && Text.isWritable size
  | _ => true

def allTellable : List Value → Bool
  | [] => true
  | item :: rest => isTellable item && allTellable rest

def entriesTellable : List (Value × Value) → Bool
  | [] => true
  | (key, value) :: rest => isTellable key && isTellable value && entriesTellable rest

def namedTellable : List (String × Value) → Bool
  | [] => true
  | (_, value) :: rest => isTellable value && namedTellable rest

end

theorem isWritable_of_isTellable {v : Value} (h : v.isTellable = true) {n : Int}
    (hn : v.asInt? = some n) : Text.isWritable n = true := by
  induction v using Value.asInt?.induct with
  | case1 b =>
    obtain rfl := Option.some.inj hn
    have hb : ((b.toNat : Nat) : Int).natAbs < Nat.pow 10 1 := by cases b <;> decide
    exact Text.isWritable_of_lt_pow (by decide) hb
  | case2 m =>
    obtain rfl := Option.some.inj hn
    simpa only [isTellable] using h
  | case3 tag name value integral ih =>
    rw [isTellable] at h
    rw [asInt?, if_pos integral] at hn
    exact ih h hn
  | case4 tag name value other =>
    rw [asInt?, if_neg other] at hn
    cases hn
  | case5 v hbool hint hmember =>
    rw [asInt?] at hn
    · cases hn
    · exact hbool
    · exact hint
    · exact hmember

end Value

namespace Field
variable {field : Field} {n : Nat}

/-- The declared size is a positive integer, and no truth value. -/
structure IsSized (field : Field) (n : Nat) : Prop where
  noTruth : ∀ b, field.declared ≠ .bool b
  isInt : field.declared.asInt? = some (n : Int)
  positive : 0 < n

theorem isSized_iff : field.IsSized n ↔ field.slotSize? = some n := by
  constructor
  · rintro ⟨noTruth, isInt, positive⟩
    have hpos : (0 : Int) < n := Int.natCast_pos.mpr positive
    unfold slotSize?
    split
    · next b hb => exact absurd hb (noTruth b)
    · simp only [isInt, Option.bind_some, if_pos hpos, Int.toNat_natCast]
  · intro h
    obtain ⟨isInt, positive⟩ := asInt?_declared h
    refine ⟨fun b hb => ?_, isInt, positive⟩
    rw [slotSize?, hb] at h
    cases h

theorem exists_isSized_iff : (∃ n, field.IsSized n) ↔ field.slotSize?.isSome := by
  simp only [isSized_iff, Option.isSome_iff_exists]

theorem slotSize?_eq_none (h : ∀ n, ¬field.IsSized n) : field.slotSize? = none :=
  Option.eq_none_iff_forall_ne_some.mpr fun n hn => h n (isSized_iff.mpr hn)

def isTellable (field : Field) : Bool :=
  match field with
  | nested layout size => layout.isTellable && Text.isWritable size
  | field => field.declared.isTellable

inductive SizeFault (layoutName : Value) (fieldName : String) (field : Field) : Fault → Prop
  | missing (absent : field.declared = .none) :
      SizeFault layoutName fieldName field (field.notProvided "_get_size")
  | told {shown : Text} (given : field.declared ≠ .none) (shows : field.shown = .ok shown)
      (writable : ∀ i, field.declared.asInt? = some i → Text.isWritable i = true) :
      SizeFault layoutName fieldName field
        (.layout .definition [layoutName, .ofString fieldName] (.badSize shown field.declared))
  /-- Some integer that would be told has no numeral. -/
  | untold (h : field.isTellable = false) :
      SizeFault layoutName fieldName field (.bare .badValue)
  /-- In the place of the enumeration is an object that has no name. -/
  | unshown {name : String} {format : Format} {label : Label} {fault : Fault}
      (labels : field = labelled name format label) (shows : field.shown = .error fault) :
      SizeFault layoutName fieldName field fault

theorem isTellable_eq_false (h : field.declared.asInt?.all Text.isWritable = false) :
    field.isTellable = false := by
  obtain ⟨i, hi, hw⟩ := (Option.all_eq_false _ _).mp h
  have hdeclared : field.declared.isTellable = false := by
    rw [← Bool.not_eq_true]
    intro ht
    have hwritable := Value.isWritable_of_isTellable ht hi
    exact absurd (hw.symm.trans hwritable) Bool.false_ne_true
  cases field with
  | nested layout size =>
    obtain rfl : (size : Int) = i := Option.some.inj hi
    simp only [isTellable, hw, Bool.and_false]
  | _ => exact hdeclared

theorem sizeFault_badSize (name : Value) (fieldName : String) (field : Field) :
    field.SizeFault name fieldName (Layout.badSize name fieldName field) := by
  by_cases given : field.declared = .none
  · rw [Layout.badSize_of_missing given]
    exact .missing given
  rcases Layout.exists_shown_or given with ⟨shown, shows⟩ | ⟨_, _, _, fault, labels, shows⟩
  · rw [Layout.badSize_of_shown shows given]
    by_cases hw : field.declared.asInt?.all Text.isWritable = true
    · rw [if_pos hw]
      exact .told given shows ((Option.all_eq_true _ _).mp hw)
    · rw [if_neg hw]
      exact .untold (isTellable_eq_false (eq_false_of_ne_true hw))
  · rw [Layout.badSize_of_unshown shows given]
    exact .unshown labels shows

end Field

namespace Layout

theorem total_eq_foldr (sizes : List Nat) : total sizes = sizes.foldr (· + ·) 0 := by
  induction sizes with
  | nil => rfl
  | cons n rest ih => rw [total, ih, List.foldr_cons]

/-- The next slot starts where the one before it ends, by induction on those before the two. -/
theorem offset_of_placedFrom {o : Nat} {slots : List Slot} {before after : List (Nat × Slot)}
    {p q : Nat × Slot} (h : placedFrom o slots = before ++ p :: q :: after) :
    q.1 = p.1 + p.2.size := by
  induction before generalizing o slots with
  | nil =>
    rcases slots with _ | ⟨first, _ | ⟨second, rest⟩⟩
    · cases h
    · cases h
    · cases h
      rfl
  | cons first before ih =>
    cases slots with
    | nil => cases h
    | cons slot rest => exact ih (List.cons.inj h).2

/-- A byte lies in the first slot or behind it, and in one of the others only if behind it. -/
theorem existsUnique_placedFrom {o k : Nat} {slots : List Slot} (ho : o ≤ k)
    (hk : k < o + extent slots) :
    ∃! p, p ∈ placedFrom o slots ∧ p.1 ≤ k ∧ k < p.1 + p.2.size := by
  induction slots generalizing o with
  | nil => exact absurd ho (Nat.not_le.mpr hk)
  | cons slot rest ih =>
    rw [extent_cons] at hk
    by_cases hin : k < o + slot.size
    · refine ⟨(o, slot), ⟨List.mem_cons_self, ho, hin⟩, ?_⟩
      rintro p ⟨hp, hle, -⟩
      rcases List.mem_cons.mp hp with rfl | hp
      · rfl
      · obtain ⟨-, hstart, -⟩ := le_of_mem_placedFrom hp
        omega
    · obtain ⟨p, ⟨hp, hle, hlt⟩, honly⟩ := ih (o := o + slot.size) (by omega) (by omega)
      refine ⟨p, ⟨List.mem_cons_of_mem _ hp, hle, hlt⟩, ?_⟩
      rintro q ⟨hq, hqle, hqlt⟩
      rcases List.mem_cons.mp hq with rfl | hq
      · exact absurd hqlt hin
      · exact honly q ⟨hq, hqle, hqlt⟩

/-- The slots in their order, without gaps, over the bytes of the layout and no others. -/
structure Tiled (layout : Layout) : Prop where
  sized : ∀ slot ∈ layout.slots, slot.field.IsSized slot.size
  ordered : layout.placed.map Prod.snd = layout.slots
  first : ∀ p, layout.placed.head? = some p → p.1 = 0
  next : ∀ before p q after, layout.placed = before ++ p :: q :: after → q.1 = p.1 + p.2.size
  total : layout.size = (layout.slots.map Slot.size).foldr (· + ·) 0
  inside : ∀ p ∈ layout.placed, p.1 + p.2.size ≤ layout.size
  covers : ∀ k < layout.size, ∃! p, p ∈ layout.placed ∧ p.1 ≤ k ∧ k < p.1 + p.2.size

theorem tiled (layout : Layout) : layout.Tiled where
  sized slot _ := Field.isSized_iff.mpr slot.sized
  ordered := map_snd_placedFrom 0 layout.slots
  first p hp := by
    rw [placed] at hp
    cases hs : layout.slots with
    | nil =>
      rw [hs] at hp
      cases hp
    | cons slot rest =>
      rw [hs] at hp
      obtain rfl := Option.some.inj hp
      rfl
  next _ _ _ _ h := offset_of_placedFrom h
  total := total_eq_foldr _
  inside _ hp := (le_of_mem_placed hp).2
  covers k hk := existsUnique_placedFrom (Nat.zero_le k) (by rwa [Nat.zero_add])

/-- What becomes of a row of fields: a layout whose slots are those of the fields, without gaps,
or else the fault of the first field whose size is none. -/
theorem define_outcome (name : Value) (order : ByteOrder) (fields : Items Field) :
    ((∃ layout, define name order fields = .ok layout) ↔
      ∀ entry ∈ fields.entries, ∃ n, entry.2.IsSized n) ∧
    (∀ layout, define name order fields = .ok layout → layout.name = name ∧
      layout.order = order ∧ layout.fields.entries = fields.entries ∧ layout.Tiled) ∧
    ∀ before fieldName field after, fields.entries = before ++ (fieldName, field) :: after →
      (∀ entry ∈ before, ∃ n, entry.2.IsSized n) → (∀ n, ¬field.IsSized n) →
      ∃ fault, define name order fields = .error fault ∧ field.SizeFault name fieldName fault := by
  refine ⟨⟨?_, ?_⟩, ?_, ?_⟩
  · rintro ⟨layout, hd⟩ entry he
    rw [← (of_define hd).2.2] at he
    obtain ⟨slot, -, rfl⟩ := List.mem_map.mp he
    exact ⟨slot.size, Field.isSized_iff.mpr slot.sized⟩
  · intro hsized
    have hslots : ∃ slots, slotsOf name fields.entries = .ok slots :=
      exists_slotsOf fun entry he => Field.exists_isSized_iff.mp (hsized entry he)
    obtain ⟨slots, hs⟩ := hslots
    obtain ⟨layout, hd, -⟩ : ∃ layout, define name order fields = .ok layout ∧ _ :=
      define_of_slotsOf hs
    exact ⟨layout, hd⟩
  · intro layout hd
    obtain ⟨hname, horder, hentries⟩ := of_define hd
    exact ⟨hname, horder, hentries, layout.tiled⟩
  · intro before fieldName field after hsplit hbefore hbad
    have hslots : slotsOf name fields.entries = .error (badSize name fieldName field) := by
      rw [hsplit]
      exact slotsOf_of_badSize (fun entry he => Field.exists_isSized_iff.mp (hbefore entry he))
        (Field.slotSize?_eq_none hbad)
    exact ⟨_, define_eq_error hslots, Field.sizeFault_badSize name fieldName field⟩

def parcelFields (size : Value) : Items Field where
  entries := [("kind", .uint16 none), ("rest", .bytes size), ("sum", .uint8 none)]
  distinct := by simp

theorem define_parcel :
    (∃ layout, define (.ofString "Parcel") .little (parcelFields (.int 3)) = .ok layout ∧
      (layout.placed.map fun p => (p.2.name, p.1, p.2.size)) =
        [("kind", 0, 2), ("rest", 2, 3), ("sum", 5, 1)] ∧ layout.Tiled) ∧
    define (.ofString "Parcel") .little (parcelFields (.bool true)) =
      .error (.layout .definition [.ofString "Parcel", .ofString "rest"]
        (.badSize (Text.of "<Bytes(True)>") (.bool true))) := by
  constructor
  · obtain ⟨-, hdefined, -⟩ := define_outcome (.ofString "Parcel") .little (parcelFields (.int 3))
    obtain ⟨-, -, -, htiled⟩ := hdefined _ rfl
    exact ⟨_, rfl, rfl, htiled⟩
  · obtain ⟨-, -, hrefused⟩ :=
      define_outcome (.ofString "Parcel") .little (parcelFields (.bool true))
    have hbefore : ∀ entry ∈ [("kind", Field.uint16 none)], ∃ n, entry.2.IsSized n := by
      intro entry he
      obtain rfl := List.mem_singleton.mp he
      exact ⟨2, Field.isSized_iff.mpr rfl⟩
    have hbad : ∀ n, ¬(Field.bytes (.bool true)).IsSized n := fun n hn => hn.noTruth true rfl
    obtain ⟨fault, hd, hf⟩ := hrefused _ "rest" _ [("sum", .uint8 none)] rfl hbefore hbad
    rw [hd]
    cases hf with
    | missing absent => cases absent
    | told given shows writable =>
      obtain rfl := Except.ok.inj shows
      rfl
    | untold h => cases h
    | unshown labels shows => cases labels

theorem define_untold_parcel {n : Int} (hneg : n < 0) (hw : Text.isWritable n = false) :
    define (.ofString "Parcel") .little (parcelFields (.int n)) = .error (.bare .badValue) := by
  have hslot : (Field.bytes (.int n)).slotSize? = none :=
    Field.slotSize?_eq_none fun k hk => by
      have hn := Option.some.inj hk.isInt
      omega
  have hd : (Field.bytes (.int n)).declared ≠ .none := Value.noConfusion
  have hbad : badSize (.ofString "Parcel") "rest" (.bytes (.int n)) = .bare .badValue := by
    rw [badSize_of_shown rfl hd, Field.declared, Value.asInt?_int, Option.all_some, hw]
    rfl
  have hrest : slotsOf (.ofString "Parcel") [("rest", .bytes (.int n)), ("sum", .uint8 none)] =
      .error (.bare .badValue) := by
    rw [slotsOf_cons_of_none hslot, hbad]
  have hkind : (Field.uint16 none).slotSize? = some 2 := rfl
  apply define_eq_error
  rw [parcelFields, slotsOf_cons_of_some hkind, hrest]
  rfl

/-- That a size is none need not be told as a fault of the definition: an integer without a
numeral is not told, nor is a number that cannot be shown. -/
theorem define_fails_otherwise :
    define (.ofString "Parcel") .little
        (parcelFields (.int (-(Nat.pow 10 Text.digitLimit : Nat)))) = .error (.bare .badValue) ∧
    define (.ofString "Parcel") .little
        ⟨[("rest", .labelled "StructField" ⟨"", []⟩ (.ofObject (.error (.bare .noAttribute))))],
          List.pairwise_singleton _ _⟩ = .error (.bare .noAttribute) := by
  have hpow : ∀ k, (0 : Int) < (Nat.pow 10 k : Nat) := fun k =>
    Int.natCast_pos.mpr (Nat.pow_pos (by decide))
  have hw := Text.isWritable_pow (Nat.le_refl Text.digitLimit)
  rw [Text.isWritable, ← Int.natAbs_neg] at hw
  exact ⟨define_untold_parcel (Int.neg_neg_of_pos (hpow Text.digitLimit)) hw, rfl⟩

end Layout

end ByteLayout
