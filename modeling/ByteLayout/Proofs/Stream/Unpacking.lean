import ByteLayout.Proofs.Stream.Reading

/-! # Unpacking from a stream and in memory

A stream looks for the bytes of a layout where they are asked for, and unpacking in memory
compares their ends with those of the buffer before. Both find the same bytes or none.
-/
namespace ByteLayout.Layout
variable {layout : Layout} {s : Stream} {data : Bytes} {o : Int}

theorem size_pos (h : layout.slots ≠ []) : 0 < layout.size := by
  obtain ⟨slot, rest, hs⟩ := List.exists_cons_of_ne_nil h
  have hslot := (Field.asInt?_declared slot.sized).2
  have hsize : layout.size = slot.size + extent rest := by
    rw [← extent_cons, ← hs]
    rfl
  omega

theorem isWritable_of_lt_positionLimit {n : Nat} (h : n < File.positionLimit) :
    Text.isWritable n = true := File.isWritable_of_lt_positionLimit h

/-- What does not lie in the bytes is told to do so by a stream as well. -/
theorem unpackIn_of_outside (ho : o < File.positionLimit) (hsize : layout.size < File.positionLimit)
    (hb : ¬(0 ≤ o ∧ o + layout.size ≤ data.length)) (hw : Text.isWritable o = true) :
    ∃ reason, layout.unpackIn data o = .ofResult (.error (.layout .unpack [] reason)) := by
  by_cases h0 : 0 ≤ o
  · exact ⟨_, unpackIn_of_short h0 ho hsize fun h => hb ⟨h0, h⟩⟩
  · refine ⟨.negativeOffset (.int o), ?_⟩
    rw [unpackIn, if_pos (Int.not_le.mp h0), Stream.negativeOffset_of_writable hw]

theorem unpackIn_fails_of_outside (ho : o < File.positionLimit)
    (hb : ¬(0 ≤ o ∧ o + layout.size ≤ data.length)) :
    ∃ fault, layout.unpackIn data o = .ofResult (.error fault) := by
  by_cases h0 : 0 ≤ o
  · rw [unpackIn, if_neg (by omega), if_neg (by omega), if_neg fun h => hb ⟨h0, h⟩]
    exact ⟨_, rfl⟩
  · rw [unpackIn, if_pos (Int.not_le.mp h0)]
    exact ⟨_, rfl⟩

/-- A stream over bytes in memory, whatever has been read of it, gives what unpacking those bytes
gives: where they hold the layout the same record or the same failure, and elsewhere none, which
both tell as far as the offset has a numeral. -/
theorem unpackFrom_outcome (hf : ∀ slot ∈ layout.slots, slot.field.BuiltIn)
    (hne : layout.slots ≠ []) (hsize : layout.size < File.positionLimit) (hs : s.Serves data)
    (ho : o < File.positionLimit) :
    (∀ items, (layout.unpackFrom s (.int o)).1.result = .ok items ↔
      (layout.unpack data o).result = .ok items) ∧
    (0 ≤ o → o + layout.size ≤ data.length →
      (layout.unpackFrom s (.int o)).1 = layout.unpack data o ∧
      (layout.KnowsAt data o → ∃ items, (layout.unpack data o).result = .ok items)) ∧
    (¬(0 ≤ o ∧ o + layout.size ≤ data.length) → Text.isWritable o = true →
      (∃ reason, (layout.unpackFrom s (.int o)).1.result =
        .error (.layout .unpack [] reason)) ∧
      ∃ reason, (layout.unpack data o).result =
        .error (.layout .unpack [layout.name] reason)) := by
  have hlocal : ∀ slot ∈ layout.slots, slot.field.ReadsSlot slot.size := fun slot hm =>
    Field.readsSlot_of_builtIn (hf slot hm) slot.sized
  rw [unpackFrom_of_serves hs hlocal (size_pos hne) hsize]
  refine ⟨fun items => ?_, fun h0 hb => ?_, fun hb hw => ?_⟩
  · by_cases hb : 0 ≤ o ∧ o + layout.size ≤ data.length
    · rw [unpackIn_of_inside hb.1 ho hb.2]
    · obtain ⟨fault, hfault⟩ := unpackIn_fails_of_outside ho hb
      rw [hfault, unpack_of_outside hb]
      exact iff_of_false (fun h => nomatch h) (fun h => nomatch h)
  · exact ⟨unpackIn_of_inside h0 ho hb, exists_unpack_of_knows hf h0 hb⟩
  · obtain ⟨reason, hreason⟩ := unpackIn_of_outside ho hsize hb hw
    refine ⟨⟨reason, by rw [hreason]; rfl⟩, .outside layout.size (.int o) data.length, ?_⟩
    rw [unpack_of_outside hb, outside_of_writable (isWritable_of_lt_positionLimit hsize) hw]
    rfl

def readOut (data : Bytes) : Stream :=
  .nested (.direct { File.ofBytes data with position := data.length } false)

theorem serves_readOut (data : Bytes) : (readOut data).Serves data :=
  Stream.serves_nested ⟨rfl, rfl, rfl⟩

/-- A record, a failure that both share, and two places that do not hold the layout. -/
theorem unpackFrom_switch :
    (∃ items, ((switchLayout ruled).unpack [9, 2, 7, 8] 1).result = .ok items ∧
      ((switchLayout ruled).unpackFrom (readOut [9, 2, 7, 8]) (.int 1)).1.result = .ok items) ∧
    ((switchLayout ruled).unpackFrom (readOut [9, 2, 7, 8]) (.int 0)).1 =
      (switchLayout ruled).unpack [9, 2, 7, 8] 0 ∧
    ∀ o ∈ [(2 : Int), -1],
      (∃ reason, ((switchLayout ruled).unpackFrom (readOut [9, 2, 7, 8]) (.int o)).1.result =
        .error (.layout .unpack [] reason)) ∧
      ∃ reason, ((switchLayout ruled).unpack [9, 2, 7, 8] o).result =
        .error (.layout .unpack [.ofString "Switch"] reason) := by
  have hf := builtIn_switchLayout ruled
  have hne : (switchLayout ruled).slots ≠ [] := by simp [switchLayout]
  have hsize : (switchLayout ruled).size < File.positionLimit := by decide
  have hs := serves_readOut [9, 2, 7, 8]
  have hread := unpackFrom_outcome hf hne hsize hs (o := 1) (by decide)
  have hruled := unpackFrom_outcome hf hne hsize hs (o := 0) (by decide)
  refine ⟨⟨_, rfl, (hread.1 _).mpr rfl⟩, (hruled.2.1 (by decide) (by decide)).1, ?_⟩
  intro o hm
  simp only [List.mem_cons, List.not_mem_nil, or_false] at hm
  rcases hm with rfl | rfl
  · exact (unpackFrom_outcome hf hne hsize hs (o := 2) (by decide)).2.2
      (by decide) (Text.isWritable_of_lt_pow (k := 1) (by decide) (by decide))
  · exact (unpackFrom_outcome hf hne hsize hs (o := -1) (by decide)).2.2
      (by decide) (Text.isWritable_of_lt_pow (k := 1) (by decide) (by decide))

/-- A negative offset without a numeral is told by neither. -/
theorem untold_of_negative (layout : Layout) (s : Stream) (data : Bytes) (hneg : o < 0)
    (hw : Text.isWritable o = false) :
    (layout.unpackFrom s (.int o)).1.result = .error (.bare .badValue) ∧
      (layout.unpack data o).result = .error (.bare .badValue) := by
  have hstream : Stream.negativeOffset (.int o) = .bare .badValue := by
    simp [Stream.negativeOffset, Fault.telling, Value.asInt?_int, hw]
  have hmemory : layout.outside layout.size data (.int o) = .bare .badValue := by
    simp [outside, Fault.telling, Value.asInt?_int, hw]
  constructor
  · have hread := Stream.result_readAt_negative s hneg (.int layout.size)
    rw [hstream] at hread
    unfold unpackFrom
    revert hread
    rcases s.readAt (.int o) (.int layout.size) with ⟨_ | content, moved⟩
    · rintro h
      obtain rfl := Except.error.inj h
      rfl
    · rintro h
      cases h
  · rw [unpack_of_outside (by omega), hmemory]
    rfl

/-- A failure to unpack need not be told as one: the rule of an enumeration fails in its own way,
an offset without a numeral is not told, and more bytes than a file has positions are not asked
for. -/
theorem unpackFrom_fails_otherwise :
    (((switchLayout ruled).unpackFrom (readOut [9, 2, 7, 8]) (.int 0)).1.result =
        .error (.bare .wrongType) ∧
      ((switchLayout ruled).unpack [9, 2, 7, 8] 0).result = .error (.bare .wrongType)) ∧
    (∃ o : Int, o < 0 ∧
      ((switchLayout ruled).unpackFrom (readOut [9, 2, 7, 8]) (.int o)).1.result =
        .error (.bare .badValue) ∧
      ((switchLayout ruled).unpack [9, 2, 7, 8] o).result = .error (.bare .badValue)) ∧
    ∃ hn : 0 < File.positionLimit,
      ((plainLayout "rest" _ hn).unpackFrom (readOut [7]) (.int 0)).1.result =
        .error (.bare .tooLarge) ∧
      ((plainLayout "rest" _ hn).unpack [7] 0).result =
        .error (.layout .unpack [.ofString "Plain"]
          (.outside (plainLayout "rest" _ hn).size (.int 0) 1)) := by
  obtain ⟨o, hneg, hw⟩ := Text.exists_neg_unwritable
  have hn : 0 < File.positionLimit := by decide
  have hsize : (plainLayout "rest" _ hn).size = File.positionLimit := Nat.add_zero _
  have hwritable : Text.isWritable ((plainLayout "rest" _ hn).size : Int) = true := by
    rw [hsize]
    exact Text.isWritable_of_lt_pow (k := 19) (by decide) (by decide)
  have hzero : Text.isWritable 0 = true :=
    Text.isWritable_of_lt_pow (k := 1) (by decide) (by decide)
  have hout : ¬((0 : Int) ≤ 0 ∧
      (0 : Int) + (plainLayout "rest" _ hn).size ≤ ([7] : Bytes).length) := fun h =>
    plainLayout_exceeds hn (by decide) h.2
  refine ⟨⟨rfl, rfl⟩, ⟨o, hneg, untold_of_negative _ _ _ hneg hw⟩, hn, rfl, ?_⟩
  rw [unpack_of_outside hout, outside_of_writable hwritable hzero]
  rfl

end ByteLayout.Layout
