import ByteLayout.Format
import ByteLayout.Proofs.Bytes.Patch

/-! # Formats of one integer

A format that stands for one integer has one item with a value; the other items are pads, or
letters with a count of zero. It writes its integer behind the bytes of the items before it, and
zeros for all of these.
-/
namespace ByteLayout

def integerLetters : List (Char × Bool × Nat) :=
  [('b', true, 1), ('B', false, 1), ('h', true, 2), ('H', false, 2), ('i', true, 4),
    ('I', false, 4), ('l', true, 4), ('L', false, 4), ('q', true, 8), ('Q', false, 8)]

theorem mem_integerLetters {c : Char} {signed : Bool} {width : Nat}
    (h : Code.ofLetter? c = some (.integer signed width)) :
    (c, signed, width) ∈ integerLetters := by
  unfold Code.ofLetter? at h
  split at h <;> cases h <;> simp [integerLetters]

theorem eq_zero_of_total {row : List Nat} (h : total row = 0) : ∀ n ∈ row, n = 0 := by
  induction row with
  | nil => exact fun n hn => nomatch hn
  | cons m row ih =>
    rw [total] at h
    intro n hn
    rcases List.mem_cons.mp hn with rfl | hn
    · omega
    · exact ih (by omega) n hn

/-- A sum of one has one summand that is one, and no other. -/
theorem exists_split_of_total {α : Type} {f : α → Nat} {row : List α}
    (h : total (row.map f) = 1) :
    ∃ before a after, row = before ++ a :: after ∧ f a = 1 ∧ ∀ b ∈ before ++ after, f b = 0 := by
  induction row with
  | nil => cases h
  | cons a row ih =>
    rw [List.map_cons, total] at h
    by_cases ha : f a = 0
    · obtain ⟨before, b, after, rfl, hb, hrest⟩ := ih (by omega)
      exact ⟨a :: before, b, after, rfl, hb, List.forall_mem_cons.mpr ⟨ha, hrest⟩⟩
    · have hrest := eq_zero_of_total (by omega : total (row.map f) = 0)
      exact ⟨[], a, row, rfl, by omega, fun b hb => hrest _ (List.mem_map_of_mem hb)⟩

namespace Format

structure IsOneInteger (format : Format) (text : String) (signed : Bool) (width : Nat) : Prop where
  parsed : parse text = .ok format
  single : format.values = 1
  integer : ∀ item ∈ format.items, item.values ≠ 0 → item.code = .integer signed width

/-- A format of an integer with nothing but valueless items around it. -/
structure IsPadded (format : Format) (before : List FormatItem) (signed : Bool) (width : Nat)
    (after : List FormatItem) : Prop where
  items : format.items = before ++ ⟨.integer signed width, 1⟩ :: after
  valueless : ∀ item ∈ before ++ after, item.values = 0

def extent (items : List FormatItem) : Nat := total (items.map FormatItem.size)

/-! ## The text of a format -/

/-- Each item comes from a letter. -/
theorem exists_letter_of_scan? {count : Option Nat} {letters : List Char} {items : List FormatItem}
    (h : scan? count letters = some items) {item : FormatItem} (hm : item ∈ items) :
    ∃ c ∈ letters, Code.ofLetter? c = some item.code := by
  induction letters generalizing count items with
  | nil =>
    cases count with
    | none =>
      cases h
      cases hm
    | some n => cases h
  | cons c rest ih =>
    have hlater : (∃ d ∈ rest, Code.ofLetter? d = some item.code) →
        ∃ d ∈ c :: rest, Code.ofLetter? d = some item.code :=
      fun ⟨d, hd, hcode⟩ => ⟨d, List.mem_cons_of_mem c hd, hcode⟩
    rw [scan?] at h
    split at h
    · exact hlater (ih h hm)
    · split at h
      · split at h
        · exact hlater (ih h hm)
        · cases h
      · obtain ⟨code, hcode, h⟩ := Option.bind_eq_some_iff.mp h
        obtain ⟨more, hmore, rfl⟩ := Option.map_eq_some_iff.mp h
        rcases List.mem_cons.mp hm with rfl | hm
        · exact ⟨c, List.mem_cons_self, hcode⟩
        · exact hlater (ih hmore hm)

theorem scan?_of_parse {text : String} {format : Format} (h : parse text = .ok format) :
    scan? none text.toList = some format.items := by
  unfold parse at h
  split at h
  · cases h
  · split at h
    · next items hitems =>
      dsimp only at h
      split at h
      · cases h
        exact hitems
      · cases h
    · cases h

theorem IsOneInteger.exists_letter {format : Format} {text : String} {signed : Bool} {width : Nat}
    (h : format.IsOneInteger text signed width) {item : FormatItem} (hm : item ∈ format.items)
    (hv : item.values ≠ 0) : ∃ letter ∈ text.toList, (letter, signed, width) ∈ integerLetters := by
  obtain ⟨c, hc, hcode⟩ := exists_letter_of_scan? (scan?_of_parse h.parsed) hm
  rw [h.integer item hm hv] at hcode
  exact ⟨c, hc, mem_integerLetters hcode⟩

theorem IsOneInteger.exists_isPadded {format : Format} {text : String} {signed : Bool} {width : Nat}
    (h : format.IsOneInteger text signed width) :
    ∃ before after, format.IsPadded before signed width after := by
  obtain ⟨before, ⟨code, count⟩, after, hitems, hone, hrest⟩ := exists_split_of_total h.single
  have hm : ⟨code, count⟩ ∈ format.items := hitems ▸ List.mem_append_cons_self
  obtain rfl : code = .integer signed width := h.integer _ hm (by omega)
  obtain rfl : count = 1 := hone
  exact ⟨before, after, hitems, hrest⟩

/-! ## What a format of one integer writes and reads -/

theorem first?_append {before after : List FormatItem} {item : FormatItem}
    (hb : ∀ other ∈ before, other.values = 0) (hi : item.values ≠ 0) :
    first? (before ++ item :: after) = some (extent before, item.code, item.count) := by
  induction before with
  | nil =>
    rw [List.nil_append, first?, if_neg hi]
    rfl
  | cons other before ih =>
    have hrest := ih fun other ho => hb other (List.mem_cons_of_mem _ ho)
    rw [List.cons_append, first?, if_pos (hb other List.mem_cons_self), hrest]
    rfl

theorem length_encode_integer {order : ByteOrder} {signed : Bool} {width : Nat} {v : Value}
    {raw : Bytes} (h : (Code.integer signed width).encode order 1 v = .ok raw) :
    raw.length = width := by
  obtain ⟨n, -, hn⟩ := Value.withIndex_eq_ok.mp h
  split at hn
  · cases hn
    exact order.length_write width _
  · cases hn

namespace IsPadded
variable {format : Format} {before after : List FormatItem} {signed : Bool} {width : Nat}
  (h : format.IsPadded before signed width after)
include h

theorem first? : Format.first? format.items = some (extent before, .integer signed width, 1) := by
  rw [h.items]
  exact first?_append (fun item hi => h.valueless item (List.mem_append_left _ hi)) Nat.one_ne_zero

theorem size : format.size = extent before + width + extent after := by
  rw [Format.size, h.items, List.map_append, List.map_cons, total_append, total, extent, extent,
    FormatItem.size, Code.width, Nat.one_mul, Nat.add_assoc]

theorem values : format.values = 1 := by
  have hzero : ∀ items : List FormatItem, (∀ item ∈ items, item.values = 0) →
      total (items.map FormatItem.values) = 0 := by
    intro items hitems
    induction items with
    | nil => rfl
    | cons item items ih =>
      obtain ⟨hi, hitems⟩ := List.forall_mem_cons.mp hitems
      rw [List.map_cons, total, hi, ih hitems]
  have hb := hzero before fun item hi => h.valueless item (List.mem_append_left _ hi)
  have ha := hzero after fun item hi => h.valueless item (List.mem_append_right _ hi)
  rw [Format.values, h.items, List.map_append, List.map_cons, total_append, total, hb, ha]
  rfl

theorem values_eq_zero_or {item : FormatItem} (hi : item ∈ format.items) :
    item.values = 0 ∨ item = ⟨.integer signed width, 1⟩ := by
  rw [h.items] at hi
  rcases List.mem_append.mp hi with hi | hi
  · exact .inl (h.valueless item (List.mem_append_left _ hi))
  · rcases List.mem_cons.mp hi with rfl | hi
    · exact .inr rfl
    · exact .inl (h.valueless item (List.mem_append_right _ hi))

theorem isOneInteger (text : String) (hparse : parse text = .ok format) :
    format.IsOneInteger text signed width where
  parsed := hparse
  single := h.values
  integer item hi hv := by
    rcases h.values_eq_zero_or hi with h0 | rfl
    · exact absurd h0 hv
    · rfl

theorem any_isOverrun : format.items.any isOverrun = false := by
  rw [List.any_eq_false]
  intro item hi ho
  rcases h.values_eq_zero_or hi with hv | rfl
  · -- a counted row has a value however short it is
    obtain ⟨code, count⟩ := item
    cases code with
    | counted => cases hv
    | _ => cases ho
  · cases ho

theorem overrun? : format.overrun? = none := by
  rw [Format.overrun?, h.first?]

theorem encode (order : ByteOrder) (v : Value) :
    format.encode order v = ((Code.integer signed width).encode order 1 v).map fun raw =>
      List.replicate (extent before) 0 ++ raw ++ List.replicate (extent after) 0 := by
  simp only [Format.encode, h.first?, h.values, if_true]
  cases hc : (Code.integer signed width).encode order 1 v with
  | error fault => rfl
  | ok raw =>
    have hl : (List.replicate (extent before) 0 ++ raw).length = extent before + width := by
      rw [List.length_append, List.length_replicate, length_encode_integer hc]
    have hle : (List.replicate (extent before) 0 ++ raw).length ≤ format.size := by
      rw [hl, h.size]
      omega
    have hrest : format.size - (extent before + width) = extent after := by
      rw [h.size]
      omega
    simp only [bind, Except.bind, pure, Except.pure, Except.map, fitted, slice_zero,
      List.take_of_length_le hle, padded_eq, hl, hrest]

theorem length_of_encode {order : ByteOrder} {v : Value} {raw : Bytes}
    (he : format.encode order v = .ok raw) : raw.length = format.size := by
  rw [h.encode] at he
  cases hc : (Code.integer signed width).encode order 1 v with
  | error fault =>
    rw [hc] at he
    cases he
  | ok inner =>
    rw [hc] at he
    cases he
    rw [List.length_append, List.length_append, List.length_replicate, List.length_replicate,
      length_encode_integer hc, h.size]

theorem decode (order : ByteOrder) (slot : Bytes) :
    format.decode order slot =
      .ok ((Code.integer signed width).decode order 1 (slot.drop (extent before))) := by
  rw [Format.decode, h.any_isOverrun, h.first?]
  rfl

end IsPadded

end Format

end ByteLayout
