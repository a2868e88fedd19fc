import ByteLayout.Proofs.Stream.Unpacking

/-! # Reads one after another

A stream may be asked for parts of its file again and again. What it gives does not depend on what
it was asked for before, whether that failed or not, and over bytes in memory it is the part that
lies there or a fault that tells of none. A file that the stream does not own stays open.
-/
namespace ByteLayout.Stream
variable {s : Stream} {data : Bytes}

def readEach (s : Stream) : List (Value × Value) → List (Except Fault Content) × Stream
  | [] => ([], s)
  | (offset, size) :: rest =>
    let (result, s) := s.readAt offset size
    let (results, s) := readEach s rest
    (result :: results, s)

/-- By induction on the calls: each leaves the file at some position, which is all that the next
one finds changed. -/
theorem readEach_eq (s : Stream) (calls : List (Value × Value)) :
    (s.readEach calls).1 = calls.map (fun call => (s.readAt call.1 call.2).1) ∧
      ∃ p, (s.readEach calls).2 = s.moved p := by
  induction calls generalizing s with
  | nil => exact ⟨rfl, exists_eq_moved s⟩
  | cons call rest ih =>
    obtain ⟨offset, size⟩ := call
    obtain ⟨p, hp⟩ := exists_moved_readAt offset size s
    obtain ⟨hresults, q, hq⟩ := ih (s.readAt offset size).2
    have hrun : s.readEach ((offset, size) :: rest) =
        ((s.readAt offset size).1 :: ((s.readAt offset size).2.readEach rest).1,
          ((s.readAt offset size).2.readEach rest).2) := rfl
    rw [hrun, hresults, hq, hp]
    refine ⟨?_, q, moved_moved s p q⟩
    simp only [result_readAt_moved, List.map_cons]

/-- The part of so many bytes lies in the data, where a part of none lies anywhere. -/
def HasPart (data : Bytes) (o n : Int) : Prop :=
  0 ≤ o ∧ 0 ≤ n ∧ (n = 0 ∨ o + n ≤ data.length)

instance (data : Bytes) (o n : Int) : Decidable (HasPart data o n) :=
  inferInstanceAs (Decidable (_ ∧ _))

theorem hasPart_of_available {o : Nat} {n : Int} (h : n = (available data o n).length) :
    HasPart data o n := by
  unfold available at h
  split_ifs at h with hneg
  · omega
  · rw [List.length_take, List.length_drop] at h
    exact ⟨by omega, by omega, by omega⟩

section
variable (hs : s.Serves data) {o n : Int} (ho : o.natAbs < File.positionLimit)
  (hn : n.natAbs < File.positionLimit)
include hs ho hn

theorem result_readAt_of_hasPart (h : HasPart data o n) :
    (s.readAt (.int o) (.int n)).1 = .ok (.octets (slice data o (o + n))) := by
  obtain ⟨h0, hn0, hpart⟩ := h
  obtain ⟨o, rfl⟩ := Int.eq_ofNat_of_zero_le h0
  obtain ⟨n, rfl⟩ := Int.eq_ofNat_of_zero_le hn0
  have havailable : available data o n = (data.drop o).take n := by
    rw [available, if_neg (Int.not_lt.mpr hn0), Int.toNat_natCast]
  have hl : ((data.drop o).take n).length = n := by
    rw [List.length_take, List.length_drop]
    omega
  rw [result_readAt hs (by omega) (by omega) (by omega), havailable, hl, if_pos rfl,
    slice_eq_take_drop]

theorem exists_result_readAt_of_not_hasPart (h : ¬HasPart data o n) :
    ∃ reason, (s.readAt (.int o) (.int n)).1 = .error (.layout .unpack [] reason) := by
  have hwo := File.isWritable_of_lt_positionLimit ho
  by_cases h0 : 0 ≤ o
  · obtain ⟨o, rfl⟩ := Int.eq_ofNat_of_zero_le h0
    have hl : ¬n = (available data o n).length := fun hl => h (hasPart_of_available hl)
    rw [result_readAt hs (by omega) (by omega) (by omega), if_neg hl, shortRead,
      Fault.telling_of_writable (File.isWritable_of_lt_positionLimit hn) hwo]
    exact ⟨_, rfl⟩
  · refine ⟨.negativeOffset (.int o), ?_⟩
    rw [result_readAt_negative s (Int.not_le.mp h0), negativeOffset_of_writable hwo]

end

/-! ## A run of reads -/

theorem isOpen_close (h : s.isOwner = false) : s.close.file.isOpen = s.file.isOpen := by
  cases s with
  | direct file owned =>
    obtain rfl : owned = false := h
    rfl
  | nested inner => rfl

theorem isOpen_unpackFrom (layout : Layout) (h : s.isOwner = false) (offset : Value) :
    (layout.unpackFrom s offset).2.file.isOpen = s.file.isOpen := by
  obtain ⟨p, hp⟩ := exists_moved_readAt offset (.int layout.size) s
  have hleft : (layout.unpackFrom s offset).2 = (s.readAt offset (.int layout.size)).2.close := by
    unfold Layout.unpackFrom
    rcases s.readAt offset (.int layout.size) with ⟨_ | content, left⟩ <;> rfl
  have howner : (s.moved p).isOwner = false := by rw [isOwner_moved, h]
  rw [hleft, hp, isOpen_close howner, file_moved]

/-- Each read of a run gives what it gives on its own: a part that lies in the data, or a fault
that tells why there is none. After it, and after a reading that leaves the stream at once, a file
that the stream does not own is open, whatever has failed. -/
theorem readEach_outcome (hs : s.Serves data) (calls : List (Value × Value)) :
    (s.readEach calls).1 = calls.map (fun call => (s.readAt call.1 call.2).1) ∧
    (∀ (i : Nat) (o n : Int), calls[i]? = some (.int o, .int n) →
      o.natAbs < File.positionLimit → n.natAbs < File.positionLimit →
      (HasPart data o n →
        (s.readEach calls).1[i]? = some (.ok (.octets (slice data o (o + n))))) ∧
      (¬HasPart data o n →
        ∃ reason, (s.readEach calls).1[i]? = some (.error (.layout .unpack [] reason)))) ∧
    (s.isOwner = false → (s.readEach calls).2.close.file.isOpen = true ∧
      ∀ (layout : Layout) (offset : Value),
        (layout.unpackFrom (s.readEach calls).2 offset).2.file.isOpen = true) := by
  obtain ⟨hresults, p, hp⟩ := readEach_eq s calls
  refine ⟨hresults, fun i o n hi ho hn => ?_, fun howner => ?_⟩
  · have hresult : (s.readEach calls).1[i]? = some (s.readAt (.int o) (.int n)).1 := by
      rw [hresults, List.getElem?_map, hi]
      rfl
    rw [hresult]
    refine ⟨fun h => ?_, fun h => ?_⟩
    · rw [result_readAt_of_hasPart hs ho hn h]
    · obtain ⟨reason, hreason⟩ := exists_result_readAt_of_not_hasPart hs ho hn h
      exact ⟨reason, by rw [hreason]⟩
  · have hleft : (s.moved p).isOwner = false := by rw [isOwner_moved, howner]
    have hopen : (s.moved p).file.isOpen = true := (hs.moved p).2.2
    rw [hp]
    exact ⟨by rw [isOpen_close hleft, hopen], fun layout offset => by
      rw [isOpen_unpackFrom layout hleft, hopen]⟩

/-- A read that comes out short, an offset that is none, a part of none beyond the end, a size
below zero, and a part that is there. -/
def mixedCalls : List (Value × Value) :=
  [(.int 4, .int 2), (.none, .int 1), (.int 9, .int 0), (.int 1, .int (-1)), (.int 1, .int 3)]

theorem readEach_mixedCalls :
    (∃ reason, ((Layout.readOut [1, 2, 3, 4, 5]).readEach mixedCalls).1[0]? =
      some (.error (.layout .unpack [] reason))) ∧
    ((Layout.readOut [1, 2, 3, 4, 5]).readEach mixedCalls).1[2]? = some (.ok (.octets [])) ∧
    (∃ reason, ((Layout.readOut [1, 2, 3, 4, 5]).readEach mixedCalls).1[3]? =
      some (.error (.layout .unpack [] reason))) ∧
    ((Layout.readOut [1, 2, 3, 4, 5]).readEach mixedCalls).1[4]? = some (.ok (.octets [2, 3, 4])) ∧
    ((Layout.readOut [1, 2, 3, 4, 5]).readEach mixedCalls).2.close.file.isOpen = true := by
  have hs := Layout.serves_readOut [1, 2, 3, 4, 5]
  obtain ⟨-, hcalls, hopen⟩ := readEach_outcome hs mixedCalls
  refine ⟨?_, ?_, ?_, ?_, (hopen rfl).1⟩
  · exact (hcalls 0 4 2 rfl (by decide) (by decide)).2 (by decide)
  · exact (hcalls 2 9 0 rfl (by decide) (by decide)).1 (by decide)
  · exact (hcalls 3 1 (-1) rfl (by decide) (by decide)).2 (by decide)
  · exact (hcalls 4 1 3 rfl (by decide) (by decide)).1 (by decide)

end ByteLayout.Stream
