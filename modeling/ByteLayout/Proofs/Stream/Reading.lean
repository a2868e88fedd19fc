import ByteLayout.Proofs.Layout.Window
import ByteLayout.Stream.Unpack

/-! # What a stream reads

A stream over bytes in memory goes on serving the same bytes whatever is asked of it, so what it
reads does not depend on what it has read, and another stream over it reads the same. Unpacking
from it is unpacking those bytes, as far as they go.
-/
namespace ByteLayout

/-- How long a part of bytes is tells which part it is. -/
theorem Content.part_octets {data : Bytes} {start n : Nat} {count : Option Nat}
    (h : ((octets data).part start count).length = n) :
    (octets data).part start count = octets ((data.drop start).take n) ∧
      n ≤ (data.drop start).length := by
  obtain ⟨row, hrow, hprefix⟩ : ∃ row, (octets data).part start count = octets row ∧
      row <+: data.drop start := by
    cases count with
    | none => exact ⟨_, rfl, List.prefix_rfl⟩
    | some wanted => exact ⟨_, rfl, List.take_prefix wanted _⟩
  rw [hrow] at h ⊢
  obtain rfl : row.length = n := h
  exact ⟨congrArg octets (List.prefix_iff_eq_take.mp hprefix), hprefix.length_le⟩

namespace File
variable {file moved : File}

theorem seek_eq_ok {n : Nat} (h : file.seek n = .ok moved) :
    n < positionLimit ∧ moved = { file with position := n } := by
  unfold seek at h
  split_ifs at h with hlimit
  exact ⟨Nat.not_le.mp hlimit, (Except.ok.inj h).symm⟩

/-- What is read is a part of the content from the position on. -/
theorem read_eq_ok {size : Value} {chunk : Content} (h : file.read size = .ok (chunk, moved)) :
    (∃ wanted, chunk = file.content.part file.position wanted) ∧
      moved = { file with position := file.position + chunk.length } := by
  unfold read at h
  cases hw : file.wanted size with
  | error fault =>
    rw [hw] at h
    cases h
  | ok wanted =>
    cases hp : file.checkPlace wanted with
    | error fault =>
      simp only [hw, hp, bind, Except.bind] at h
      split at h <;> cases h
    | ok _ =>
      simp only [hw, hp, bind, Except.bind] at h
      split at h
      · cases h
      · obtain ⟨rfl, rfl⟩ := Prod.mk.inj (Except.ok.inj h)
        exact ⟨⟨wanted, rfl⟩, rfl⟩

/-- Positions are below a number that has a numeral. -/
theorem isWritable_of_lt_positionLimit {n : Int} (h : n.natAbs < positionLimit) :
    Text.isWritable n = true := by
  have hlimit : positionLimit < Nat.pow 10 19 := by decide
  exact Text.isWritable_of_lt_pow (by decide) (Nat.lt_trans h hlimit)

end File

namespace Stream
variable {s : Stream} {data : Bytes}

theorem file_withFile (s : Stream) (file : File) : (s.withFile file).file = file := by
  induction s with
  | direct file owned => rfl
  | nested inner ih => exact ih

theorem withFile_file (s : Stream) : s.withFile s.file = s := by
  induction s with
  | direct file owned => rfl
  | nested inner ih => exact congrArg nested ih

theorem withFile_withFile (s : Stream) (file file' : File) :
    (s.withFile file).withFile file' = s.withFile file' := by
  induction s with
  | direct file owned => rfl
  | nested inner ih => exact congrArg nested ih

def moved (s : Stream) (position : Nat) : Stream := s.withFile { s.file with position }

theorem file_moved (s : Stream) (p : Nat) : (s.moved p).file = { s.file with position := p } :=
  file_withFile s _

theorem isOwner_moved (s : Stream) (p : Nat) : (s.moved p).isOwner = s.isOwner := by
  cases s <;> rfl

theorem moved_moved (s : Stream) (p q : Nat) : (s.moved p).moved q = s.moved q := by
  rw [moved, file_moved, moved, withFile_withFile]
  rfl

theorem exists_eq_moved (s : Stream) : ∃ p, s = s.moved p :=
  ⟨s.file.position, (withFile_file s).symm⟩

section
variable (offset size : Value)

theorem exists_moved_seek (s : Stream) : ∃ p, (s.seek offset).2 = s.moved p := by
  unfold seek
  cases position offset with
  | error fault => exact exists_eq_moved s
  | ok n =>
    cases hs : s.file.seek n with
    | error fault => simpa only [hs] using exists_eq_moved s
    | ok file =>
      obtain ⟨-, rfl⟩ := File.seek_eq_ok hs
      exact ⟨n, by simp only [hs, moved]⟩

theorem exists_moved_read (s : Stream) : ∃ p, (s.read size).2 = s.moved p := by
  unfold read
  cases hr : s.file.read size with
  | error fault => exact exists_eq_moved s
  | ok result =>
    obtain ⟨chunk, file⟩ := result
    obtain ⟨-, rfl⟩ := File.read_eq_ok hr
    exact ⟨_, rfl⟩

/-- Reading does nothing to a stream but move its file, whether it fails or not. -/
theorem exists_moved_readAt (s : Stream) : ∃ p, (s.readAt offset size).2 = s.moved p := by
  unfold readAt
  split
  · exact exists_eq_moved s
  · obtain ⟨p, hseek⟩ := exists_moved_seek offset s
    revert hseek
    rcases s.seek offset with ⟨_ | _, left⟩
    · rintro rfl
      exact ⟨p, rfl⟩
    · rintro rfl
      obtain ⟨q, hread⟩ := exists_moved_read size (s.moved p)
      rw [moved_moved] at hread
      revert hread
      dsimp only
      rcases (s.moved p).read size with ⟨_ | chunk, left⟩
      · rintro rfl
        exact ⟨q, rfl⟩
      · rintro rfl
        dsimp only
        split <;> exact ⟨q, rfl⟩

/-- Where the file has been left is nothing to what is read next. -/
theorem result_readAt_moved (s : Stream) (p : Nat) :
    ((s.moved p).readAt offset size).1 = (s.readAt offset size).1 := by
  have hfile : ∀ n, (s.moved p).file.seek n = s.file.seek n := by
    intro n
    rw [file_moved]
    rfl
  unfold readAt
  split
  · rfl
  · unfold seek
    cases position offset with
    | error fault => rfl
    | ok n =>
      simp only [hfile]
      cases hs : s.file.seek n with
      | error fault => rfl
      | ok file => simp only [moved, withFile_withFile]

theorem seek_nested (s : Stream) :
    (nested s).seek offset = ((s.seek offset).1, nested (s.seek offset).2) := by
  have hf : (nested s).file = s.file := rfl
  unfold seek
  cases position offset with
  | error fault => rfl
  | ok n =>
    simp only [hf]
    cases s.file.seek n with
    | error fault => rfl
    | ok file => rfl

theorem read_nested (s : Stream) :
    (nested s).read size = ((s.read size).1, nested (s.read size).2) := by
  have hf : (nested s).file = s.file := rfl
  unfold read
  rw [hf]
  cases s.file.read size with
  | error fault => rfl
  | ok result => rfl

/-- A stream over another one reads what that reads. -/
theorem readAt_nested (s : Stream) :
    (nested s).readAt offset size =
      ((s.readAt offset size).1, nested (s.readAt offset size).2) := by
  unfold readAt
  split
  · rfl
  · rw [seek_nested]
    rcases s.seek offset with ⟨_ | _, s⟩
    · rfl
    · simp only [read_nested]
      rcases s.read size with ⟨_ | chunk, s⟩
      · rfl
      · dsimp only
        split <;> rfl

end

/-- The stream is over an open file in memory that holds the bytes. -/
def Serves (s : Stream) (data : Bytes) : Prop :=
  s.file.kind = .memory ∧ s.file.content = .octets data ∧ s.file.isOpen = true

theorem serves_ofBytes (data : Bytes) : (ofBytes data).Serves data := ⟨rfl, rfl, rfl⟩

theorem serves_nested (h : s.Serves data) : (nested s).Serves data := h

theorem Serves.moved (h : s.Serves data) (p : Nat) : (s.moved p).Serves data := by
  rwa [Serves, file_moved]

/-- Whatever was asked of the stream, it serves the same bytes. -/
theorem serves_readAt (offset size : Value) (h : s.Serves data) :
    (s.readAt offset size).2.Serves data := by
  obtain ⟨p, hp⟩ := exists_moved_readAt offset size s
  rw [hp]
  exact h.moved p

def available (data : Bytes) (o : Nat) (n : Int) : Bytes :=
  if n < 0 then data.drop o else (data.drop o).take n.toNat

theorem space?_of_memory {file : File} (hk : file.kind = .memory) : file.space? = none := by
  rw [File.space?, hk]

theorem isOnDisk_of_memory {file : File} (hk : file.kind = .memory) : file.isOnDisk = false := by
  rw [File.isOnDisk, space?_of_memory hk]
  rfl

section
variable {n : Int} (hlow : -(File.positionLimit : Int) ≤ n) (hn : n < File.positionLimit)
include hlow hn

theorem wanted_of_memory {file : File} (hk : file.kind = .memory) :
    file.wanted (.int n) = .ok (if n < 0 then none else some n.toNat) := by
  have hlarge : File.wanted.isTooLarge n = false := by
    simp only [File.wanted.isTooLarge, Bool.or_eq_false_iff, decide_eq_false_iff_not]
    omega
  have hallowed : file.allowed (.int n) = .ok (.int n) := by
    simp only [File.allowed, hk]
  have hdisk := isOnDisk_of_memory hk
  simp only [File.wanted, hallowed, bind, Except.bind,
    Value.withIndex_of_asInt? (Value.asInt?_int n), hlarge, hdisk]
  by_cases hneg : n < 0
  · simp [hneg]
    rfl
  · simp [hneg]
    rfl

theorem read_of_memory {file : File} (hk : file.kind = .memory)
    (hc : file.content = .octets data) (hopen : file.isOpen = true) :
    ∃ moved, file.read (.int n) = .ok (.octets (available data file.position n), moved) := by
  have hpart : (Content.octets data).part file.position (if n < 0 then none else some n.toNat) =
      .octets (available data file.position n) := by
    unfold available
    split <;> rfl
  have hplace : ∀ wanted, file.checkPlace wanted = .ok () := by
    intro wanted
    unfold File.checkPlace
    rw [space?_of_memory hk]
  refine ⟨{ file with position := file.position + (available data file.position n).length }, ?_⟩
  simp only [File.read, wanted_of_memory hlow hn hk, hplace, hc, hopen, hpart, bind, Except.bind]
  rfl

end

theorem position_int {o : Int} (h0 : 0 ≤ o) : position (.int o) = .ok o.toNat := by
  rw [position, Value.asInt?_int]
  exact if_pos h0

theorem readAt_of_nonneg (s : Stream) {o : Int} (h0 : 0 ≤ o) (size : Value) :
    s.readAt (.int o) size =
      match s.seek (.int o) with
      | (.error fault, s) => (.error fault, s)
      | (.ok (), s) =>
        match s.read size with
        | (.error fault, s) => (.error fault, s)
        | (.ok chunk, s) =>
          if size.asInt? = some (chunk.length : Int) then (.ok chunk, s)
          else (.error (shortRead chunk.length size (.int o)), s) := by
  refine if_neg ?_
  simpa [Value.asInt?_int] using h0

/-- An offset that has a numeral is told to be negative. -/
theorem negativeOffset_of_writable {o : Int} (hw : Text.isWritable o = true) :
    negativeOffset (.int o) = .layout .unpack [] (.negativeOffset (.int o)) := by
  have hall : ([Value.int o].all fun v => v.asInt?.all Text.isWritable) = true := by
    simp [Value.asInt?_int, hw]
  rw [negativeOffset, Fault.telling, if_pos hall]

theorem result_readAt_negative (s : Stream) {o : Int} (ho : o < 0) (size : Value) :
    (s.readAt (.int o) size).1 = .error (negativeOffset (.int o)) := by
  simp [readAt, Value.asInt?_int, ho]

/-- What a read gives is a part of the file where it was asked for, and as long. -/
theorem of_result_readAt_eq_ok {o : Int} {size : Value} {content : Content}
    (h : (s.readAt (.int o) size).1 = .ok content) :
    0 ≤ o ∧ o < File.positionLimit ∧ (∃ wanted, content = s.file.content.part o.toNat wanted) ∧
      size.asInt? = some (content.length : Int) := by
  by_cases h0 : 0 ≤ o
  · rw [readAt_of_nonneg s h0, seek, position_int h0] at h
    cases hs : s.file.seek o.toNat with
    | error fault =>
      simp only [hs] at h
      cases h
    | ok file =>
      obtain ⟨hlimit, rfl⟩ := File.seek_eq_ok hs
      simp only [hs, read, file_withFile] at h
      cases hr : File.read { s.file with position := o.toNat } size with
      | error fault =>
        rw [hr] at h
        cases h
      | ok result =>
        obtain ⟨chunk, left⟩ := result
        obtain ⟨hpart, -⟩ := File.read_eq_ok hr
        rw [hr] at h
        dsimp only at h
        split_ifs at h with hexact
        obtain rfl := Except.ok.inj h
        exact ⟨h0, by omega, hpart, hexact⟩
  · rw [result_readAt_negative s (Int.not_le.mp h0)] at h
    cases h

/-- What is read of a file of bytes, be it in memory or not, is a part that lies in them. -/
theorem of_result_readAt_octets (hc : s.file.content = .octets data) {o : Int} {n : Nat}
    (hn : 0 < n) {content : Content} (h : (s.readAt (.int o) (.int n)).1 = .ok content) :
    0 ≤ o ∧ o < File.positionLimit ∧ o + n ≤ data.length ∧
      content = .octets ((data.drop o.toNat).take n) := by
  obtain ⟨h0, hlimit, ⟨wanted, rfl⟩, hexact⟩ := of_result_readAt_eq_ok h
  rw [hc] at hexact ⊢
  have hl := Int.natCast_inj.mp (Option.some.inj (hexact.symm.trans (Value.asInt?_int n)))
  obtain ⟨hpart, hle⟩ := Content.part_octets hl
  rw [List.length_drop] at hle
  exact ⟨h0, hlimit, by omega, hpart⟩

/-- Where no file has a position, nothing is read. -/
theorem result_readAt_beyond (h : s.Serves data) {o : Int} (ho : File.positionLimit ≤ o)
    (size : Value) : (s.readAt (.int o) size).1 = .error (.bare .tooLarge) := by
  obtain ⟨hk, -, -⟩ := h
  have h0 : 0 ≤ o := by omega
  have hle : File.positionLimit ≤ o.toNat := by omega
  have hfile : s.file.seek o.toNat = .error (.bare .tooLarge) := by
    simp [File.seek, isOnDisk_of_memory hk, hle]
  simp only [readAt_of_nonneg s h0, seek, position_int h0, hfile]

/-- Reading at an offset gives exactly as many bytes as were asked for, or it fails. -/
theorem result_readAt (h : s.Serves data) {o : Nat} (ho : o < File.positionLimit) {n : Int}
    (hlow : -(File.positionLimit : Int) ≤ n) (hn : n < File.positionLimit) :
    (s.readAt (.int o) (.int n)).1 =
      if n = (available data o n).length then .ok (.octets (available data o n))
      else .error (shortRead (available data o n).length (.int n) (.int o)) := by
  obtain ⟨hk, hc, hopen⟩ := h
  have h0 : (0 : Int) ≤ o := Int.natCast_nonneg o
  have hfile : s.file.seek o = .ok { s.file with position := o } := by
    simp [File.seek, space?_of_memory hk, hopen, Nat.not_le.mpr ho]
  have hseek : s.seek (.int o) = (.ok (), s.withFile { s.file with position := o }) := by
    simp only [seek, position_int h0, Int.toNat_natCast, hfile]
  obtain ⟨moved, hmoved⟩ : ∃ moved, File.read { s.file with position := o } (.int n) =
      .ok (.octets (available data o n), moved) := read_of_memory hlow hn hk hc hopen
  have hread : (s.withFile { s.file with position := o }).read (.int n) =
      (.ok (.octets (available data o n)),
        (s.withFile { s.file with position := o }).withFile moved) := by
    simp only [read, file_withFile, hmoved]
  simp only [readAt_of_nonneg s h0, hseek, hread, Value.asInt?_int, Option.some.injEq,
    Content.length]
  split <;> rfl

end Stream

namespace Layout
variable {layout : Layout} {s : Stream} {data : Bytes}

def unpackIn (layout : Layout) (data : Bytes) (o : Int) : Logged (Items Value) :=
  if o < 0 then .ofResult (.error (Stream.negativeOffset (.int o)))
  else if File.positionLimit ≤ o then .ofResult (.error (.bare .tooLarge))
  else if o + layout.size ≤ data.length then layout.unpack data o
  else .ofResult (.error (Stream.shortRead (data.length - o.toNat) (.int layout.size) (.int o)))

theorem unpackFrom_nested (s : Stream) (offset : Value) :
    (layout.unpackFrom (.nested s) offset).2 =
      .nested (s.readAt offset (.int layout.size)).2 := by
  unfold unpackFrom
  rw [Stream.readAt_nested]
  rcases s.readAt offset (.int layout.size) with ⟨_ | content, moved⟩ <;> rfl

theorem fst_unpackFrom (s : Stream) (offset : Value) :
    (layout.unpackFrom s offset).1 =
      match (s.readAt offset (.int layout.size)).1 with
      | .error fault => .ofResult (.error fault)
      | .ok content => layout.unpackContent content := by
  unfold unpackFrom
  rcases s.readAt offset (.int layout.size) with ⟨_ | content, moved⟩ <;> rfl

/-- A layout whose fields read nothing but their slots makes of the bytes that are read what it
makes of them where they are. -/
theorem unpackFrom_of_serves (hs : s.Serves data)
    (hf : ∀ slot ∈ layout.slots, slot.field.ReadsSlot slot.size) (hpos : 0 < layout.size)
    (hsize : layout.size < File.positionLimit) (o : Int) :
    (layout.unpackFrom s (.int o)).1 = layout.unpackIn data o := by
  rw [fst_unpackFrom, unpackIn]
  by_cases hneg : o < 0
  · rw [if_pos hneg, Stream.result_readAt_negative s hneg]
  rw [if_neg hneg]
  by_cases hlimit : (File.positionLimit : Int) ≤ o
  · rw [if_pos hlimit, Stream.result_readAt_beyond hs hlimit]
  rw [if_neg hlimit]
  obtain ⟨o, rfl⟩ := Int.eq_ofNat_of_zero_le (Int.not_lt.mp hneg)
  have havailable : Stream.available data o layout.size = (data.drop o).take layout.size :=
    if_neg (by omega)
  have hread := Stream.result_readAt hs (o := o) (n := layout.size) (by omega) (by omega) (by omega)
  have hl : ((data.drop o).take layout.size).length = min layout.size (data.length - o) := by
    rw [List.length_take, List.length_drop]
  rw [hread, havailable]
  by_cases hb : (o : Int) + layout.size ≤ data.length
  · rw [if_pos hb, if_pos (by omega)]
    exact (unpack_eq_window hf (by omega)).symm
  · have hshort : ((data.drop o).take layout.size).length = data.length - o := by omega
    rw [if_neg hb, if_neg (by omega), hshort, Int.toNat_natCast]

theorem unpackIn_of_inside {o : Int} (h0 : 0 ≤ o) (ho : o < File.positionLimit)
    (hb : o + layout.size ≤ data.length) : layout.unpackIn data o = layout.unpack data o := by
  rw [unpackIn, if_neg (by omega), if_neg (by omega), if_pos hb]

/-- What is unpacked of a file of bytes, be it in memory or not, can be unpacked of the bytes. -/
theorem result_unpackIn_of_unpackFrom (hc : s.file.content = .octets data)
    (hf : ∀ slot ∈ layout.slots, slot.field.ReadsSlot slot.size) (hpos : 0 < layout.size) {o : Int}
    {items : Items Value} (h : (layout.unpackFrom s (.int o)).1.result = .ok items) :
    (layout.unpackIn data o).result = .ok items := by
  rw [fst_unpackFrom] at h
  cases hr : (s.readAt (.int o) (.int layout.size)).1 with
  | error fault =>
    rw [hr] at h
    cases h
  | ok content =>
    obtain ⟨h0, hlimit, hb, rfl⟩ := Stream.of_result_readAt_octets hc hpos hr
    obtain ⟨o, rfl⟩ := Int.eq_ofNat_of_zero_le h0
    simp only [hr, unpackContent, Int.toNat_natCast] at h
    rwa [unpackIn_of_inside h0 hlimit hb, unpack_eq_window hf (by omega)]

/-- A stream that lies over another one leaves that one with the same content. -/
theorem of_unpackFrom_nested (hc : s.file.content = .octets data)
    (hf : ∀ slot ∈ layout.slots, slot.field.ReadsSlot slot.size) (hpos : 0 < layout.size) {o : Int}
    {warnings : List Warning} {items : Items Value} {left : Stream}
    (h : layout.unpackFrom (.nested s) (.int o) = (⟨warnings, .ok items⟩, left)) :
    (layout.unpackIn data o).result = .ok items ∧
      ∃ inner, left = .nested inner ∧ inner.file.content = .octets data := by
  have hresult : (layout.unpackFrom (.nested s) (.int o)).1.result = .ok items := by rw [h]
  have hleft : (layout.unpackFrom (.nested s) (.int o)).2 =
      .nested (s.readAt (.int o) (.int layout.size)).2 := unpackFrom_nested s (.int o)
  obtain ⟨p, hp⟩ := Stream.exists_moved_readAt (.int o) (.int layout.size) s
  rw [h, hp] at hleft
  refine ⟨result_unpackIn_of_unpackFrom (s := .nested s) hc hf hpos hresult, s.moved p, hleft, ?_⟩
  rw [Stream.file_moved, hc]

theorem unpackIn_of_beyond {o : Int} (ho : File.positionLimit ≤ o) :
    layout.unpackIn data o = .ofResult (.error (.bare .tooLarge)) := by
  rw [unpackIn, if_neg (by omega), if_pos ho]

/-- All positions have numerals, so it can be told that a read is short. -/
theorem unpackIn_of_short {o : Int} (h0 : 0 ≤ o) (ho : o < File.positionLimit)
    (hsize : layout.size < File.positionLimit) (hb : ¬(o + layout.size ≤ data.length)) :
    layout.unpackIn data o = .ofResult (.error (.layout .unpack []
      (.shortRead (data.length - o.toNat) (.int layout.size) (.int o)))) := by
  have hwsize : Text.isWritable layout.size = true :=
    File.isWritable_of_lt_positionLimit (by omega)
  have hwo : Text.isWritable o = true := File.isWritable_of_lt_positionLimit (by omega)
  rw [unpackIn, if_neg (by omega), if_neg (by omega), if_neg hb, Stream.shortRead,
    Fault.telling_of_writable hwsize hwo]

section
variable (hf : ∀ slot ∈ layout.slots, slot.field.ReadsAny slot.size) {o : Int} (h0 : 0 ≤ o)
include hf h0

theorem exists_unpackIn_of_inside (ho : o < File.positionLimit)
    (hb : o + layout.size ≤ data.length) :
    ∃ items, (layout.unpackIn data o).result = .ok items := by
  rw [unpackIn_of_inside h0 ho hb]
  obtain ⟨o, rfl⟩ := Int.eq_ofNat_of_zero_le h0
  exact exists_unpack_of_readsAny hf (by omega)

/-- Whether there is a record is told by the ends of the bytes and of the positions alone. -/
theorem result_unpackIn_eq_error_iff (hsize : layout.size < File.positionLimit) {fault : Fault} :
    (layout.unpackIn data o).result = .error fault ↔
      File.positionLimit ≤ o ∧ fault = .bare .tooLarge ∨
      o < File.positionLimit ∧ ¬(o + layout.size ≤ data.length) ∧
        fault = .layout .unpack []
          (.shortRead (data.length - o.toNat) (.int layout.size) (.int o)) := by
  constructor
  · intro h
    by_cases ho : (File.positionLimit : Int) ≤ o
    · rw [unpackIn_of_beyond ho] at h
      exact Or.inl ⟨ho, (Except.error.inj h).symm⟩
    · have ho := Int.not_le.mp ho
      refine Or.inr ⟨ho, ?_⟩
      by_cases hb : o + layout.size ≤ data.length
      · obtain ⟨items, hi⟩ := exists_unpackIn_of_inside hf h0 ho hb
        rw [hi] at h
        cases h
      · rw [unpackIn_of_short h0 ho hsize hb] at h
        exact ⟨hb, (Except.error.inj h).symm⟩
  · rintro (⟨ho, rfl⟩ | ⟨ho, hb, rfl⟩)
    · rw [unpackIn_of_beyond ho]
      rfl
    · rw [unpackIn_of_short h0 ho hsize hb]
      rfl

theorem unpackIn_eq_error (hsize : layout.size < File.positionLimit) {fault : Fault}
    (h : (layout.unpackIn data o).result = .error fault) :
    File.positionLimit ≤ o ∧ fault = .bare .tooLarge ∨
      o < File.positionLimit ∧ ∃ chain reason, fault = .layout .unpack chain reason := by
  rcases (result_unpackIn_eq_error_iff hf h0 hsize).mp h with ⟨ho, hfault⟩ | ⟨ho, -, hfault⟩
  · exact Or.inl ⟨ho, hfault⟩
  · exact Or.inr ⟨ho, _, _, hfault⟩

theorem exists_unpackIn_iff (hsize : layout.size < File.positionLimit) :
    (∃ items, (layout.unpackIn data o).result = .ok items) ↔
      o < File.positionLimit ∧ o + layout.size ≤ data.length := by
  constructor
  · rintro ⟨items, h⟩
    by_contra hn
    rcases Int.lt_or_le o File.positionLimit with ho | ho
    · rw [unpackIn_of_short h0 ho hsize fun hb => hn ⟨ho, hb⟩] at h
      cases h
    · rw [unpackIn_of_beyond ho] at h
      cases h
  · rintro ⟨ho, hb⟩
    exact exists_unpackIn_of_inside hf h0 ho hb

end

end Layout

end ByteLayout
