import ByteLayout.Proofs.Gpt.Layouts
import ByteLayout.Proofs.Stream.Reading

/-! # Which images have a partition table

What is read of an image through two streams is what is unpacked of its bytes. There is a table
when the header lies in the image and tells of entries that do, and what there is then is told by
the bytes of the image. Where there is none, a position beyond all files has been asked for, or a
layout tells of what is wrong.
-/
namespace ByteLayout.Gpt
variable {s : Stream} {image : Bytes}

def entriesIn (image : Bytes) (start stride : Int) (count : Nat) : Logged (List (Items Value)) :=
  (List.range count).mapM fun i : Nat => entryLayout.unpackIn image (start + i * stride)

theorem entriesIn_succ (start stride : Int) (count : Nat) :
    entriesIn image start stride (count + 1) = do
      let entry ← entryLayout.unpackIn image start
      let rest ← entriesIn image (start + stride) stride count
      return entry :: rest := by
  have hmoved : (fun i : Nat => entryLayout.unpackIn image (start + i * stride)) ∘ Nat.succ =
      fun i : Nat => entryLayout.unpackIn image (start + stride + i * stride) := by
    funext i
    have ho : start + ((i + 1 : Nat) : Int) * stride = start + stride + i * stride := by
      rw [Int.natCast_add, Int.add_mul]
      omega
    exact congrArg (entryLayout.unpackIn image) ho
  have hfirst : start + ((0 : Nat) : Int) * stride = start := by
    rw [Int.natCast_zero, Int.zero_mul, Int.add_zero]
  rw [entriesIn, List.range_succ_eq_map, List.mapM_cons, List.mapM_map, hmoved, hfirst]
  rfl

/-- The stream serves the image after each entry as before it, by induction on their number. -/
theorem readEntries_of_serves (hs : s.Serves image) (start stride : Int) (count : Nat) :
    (readEntries s start stride count).1 = entriesIn image start stride count := by
  induction count generalizing s start with
  | zero => rfl
  | succ count ih =>
    have hentry : (entryLayout.unpackFrom (.nested s) (.int start)).1 =
        entryLayout.unpackIn image start :=
      Layout.unpackFrom_of_serves (Stream.serves_nested hs) (fun slot hm =>
        (reads_entryLayout slot hm).1) (by decide) (by decide) start
    have hmoved : (entryLayout.unpackFrom (.nested s) (.int start)).2 = .nested
        (s.readAt (.int start) (.int entryLayout.size)).2 := Layout.unpackFrom_nested s (.int start)
    have hserves := Stream.serves_readAt (.int start) (.int entryLayout.size) hs
    rw [entriesIn_succ, ← hentry, ← ih hserves, readEntries]
    revert hmoved
    rcases entryLayout.unpackFrom (.nested s) (.int start) with ⟨⟨warnings, result⟩, moved⟩
    rintro rfl
    cases result with
    | error fault => rfl
    | ok items => rfl

def tableIn (image : Bytes) (sector : Int) : Logged Table := do
  let header ← headerLayout.unpackIn image sector
  Logged.ofResult (checkHeader header)
  let entries ← entriesIn image (intOf header "part_entry_start_lba" * sector)
    (intOf header "part_entry_size") (intOf header "num_part_entries").toNat
  return ⟨header, entries⟩

theorem result_read_of_serves (hs : s.Serves image) (sector : Int) :
    (read s (.int sector)).1.result = (tableIn image sector).result := by
  have hheader : (headerLayout.unpackFrom (.nested s) (.int sector)).1 =
      headerLayout.unpackIn image sector :=
    Layout.unpackFrom_of_serves (Stream.serves_nested hs) (fun slot hm =>
      (reads_headerLayout slot hm).1) (by decide) (by decide) sector
  have hmoved : (headerLayout.unpackFrom (.nested s) (.int sector)).2 = .nested
      (s.readAt (.int sector) (.int headerLayout.size)).2 :=
    Layout.unpackFrom_nested s (.int sector)
  have hserves := Stream.serves_readAt (.int sector) (.int headerLayout.size) hs
  rw [read, readTable, tableIn, ← hheader]
  revert hmoved
  rcases headerLayout.unpackFrom (.nested s) (.int sector) with ⟨⟨warnings, result⟩, moved⟩
  rintro rfl
  cases result with
  | error fault => rfl
  | ok header =>
    simp only [readEntries.inner, bind, Logged.bind]
    cases hc : checkHeader header with
    | error fault => rfl
    | ok _ =>
      simp only [Logged.ofResult, readEntries_of_serves hserves, Value.asInt?_int,
        Option.getD_some]

theorem checkHeader_eq_ok_iff {header : Items Value} :
    checkHeader header = .ok () ↔ bytesOf header "signature" = signature ∧
      (entryLayout.size : Int) ≤ intOf header "part_entry_size" := by
  unfold checkHeader
  dsimp only
  split_ifs with h1 h2
  · exact ⟨nofun, fun h => absurd h.1 h1⟩
  · exact ⟨nofun, fun h => absurd h.2 (Int.not_le.mpr h2)⟩
  · exact ⟨fun _ => ⟨not_not.mp h1, Int.not_lt.mp h2⟩, fun _ => rfl⟩

theorem checkHeader_eq_error {header : Items Value} {fault : Fault}
    (h : checkHeader header = .error fault) :
    ∃ chain reason, fault = .layout .unpack chain reason := by
  unfold checkHeader at h
  dsimp only at h
  split_ifs at h
  · exact ⟨_, _, (Except.error.inj h).symm⟩
  · exact ⟨_, _, (Except.error.inj h).symm⟩

theorem result_tableIn_eq_ok_iff {sector : Int} {table : Table} :
    (tableIn image sector).result = .ok table ↔
      (headerLayout.unpackIn image sector).result = .ok table.header ∧
      checkHeader table.header = .ok () ∧
      (entriesIn image (intOf table.header "part_entry_start_lba" * sector)
        (intOf table.header "part_entry_size")
        (intOf table.header "num_part_entries").toNat).result = .ok table.entries := by
  simp only [tableIn, Logged.result_bind_eq_ok_iff]
  constructor
  · rintro ⟨header, hheader, _, hcheck, entries, hentries, h⟩
    obtain rfl := Except.ok.inj h
    exact ⟨hheader, hcheck, hentries⟩
  · rintro ⟨hheader, hcheck, hentries⟩
    exact ⟨table.header, hheader, (), hcheck, table.entries, hentries, rfl⟩

theorem result_tableIn_eq_error_iff {sector : Int} {fault : Fault} :
    (tableIn image sector).result = .error fault ↔
      (headerLayout.unpackIn image sector).result = .error fault ∨
      ∃ header, (headerLayout.unpackIn image sector).result = .ok header ∧
        (checkHeader header = .error fault ∨ checkHeader header = .ok () ∧
          (entriesIn image (intOf header "part_entry_start_lba" * sector)
            (intOf header "part_entry_size")
            (intOf header "num_part_entries").toNat).result = .error fault) := by
  simp only [tableIn, Logged.result_bind_eq_error_iff]
  constructor
  · rintro (h | ⟨header, hheader, h | ⟨_, hcheck, h | ⟨entries, -, h⟩⟩⟩)
    · exact Or.inl h
    · exact Or.inr ⟨header, hheader, Or.inl h⟩
    · exact Or.inr ⟨header, hheader, Or.inr ⟨hcheck, h⟩⟩
    · cases h
  · rintro (h | ⟨header, hheader, h | ⟨hcheck, h⟩⟩)
    · exact Or.inl h
    · exact Or.inr ⟨header, hheader, Or.inl h⟩
    · exact Or.inr ⟨header, hheader, Or.inr ⟨(), hcheck, Or.inl h⟩⟩

/-- Of a file of bytes, be it in memory or not, no entries are read but those in the bytes. By
induction on their number: what is read of one leaves the content of the file as it is. -/
theorem result_entriesIn_of_readEntries (hc : s.file.content = .octets image) (start stride : Int)
    {count : Nat} {entries : List (Items Value)}
    (h : (readEntries s start stride count).1.result = .ok entries) :
    (entriesIn image start stride count).result = .ok entries := by
  induction count generalizing s start entries with
  | zero => exact h
  | succ count ih =>
    rw [readEntries] at h
    rcases hread : entryLayout.unpackFrom (.nested s) (.int start) with ⟨⟨warnings, result⟩, left⟩
    rw [hread] at h
    cases result with
    | error fault => cases h
    | ok items =>
      obtain ⟨hentry, inner, rfl, hleft⟩ := Layout.of_unpackFrom_nested hc
        (fun slot hm => (reads_entryLayout slot hm).1) (by decide) hread
      obtain ⟨_, ⟨⟩, h⟩ := Logged.result_bind_eq_ok_iff.mp h
      obtain ⟨rest, hrest, ⟨⟩⟩ := Logged.result_bind_eq_ok_iff.mp h
      rw [entriesIn_succ, Logged.result_bind_eq_ok_iff]
      exact ⟨items, hentry, Logged.result_bind_eq_ok_iff.mpr ⟨rest, ih hleft _ hrest, rfl⟩⟩

/-- Nor is a table read but that in the bytes. -/
theorem result_tableIn_of_read (hc : s.file.content = .octets image) {sector : Int} {table : Table}
    (h : (read s (.int sector)).1.result = .ok table) :
    (tableIn image sector).result = .ok table := by
  rw [read, readTable] at h
  rcases hread : headerLayout.unpackFrom (.nested s) (.int sector) with ⟨⟨warnings, result⟩, left⟩
  rw [hread] at h
  cases result with
  | error fault => cases h
  | ok header =>
    obtain ⟨hheader, inner, rfl, hleft⟩ := Layout.of_unpackFrom_nested hc
      (fun slot hm => (reads_headerLayout slot hm).1) (by decide) hread
    cases hcheck : checkHeader header with
    | error fault =>
      simp only [readEntries.inner, hcheck] at h
      cases h
    | ok _ =>
      simp only [readEntries.inner, hcheck, Value.asInt?_int, Option.getD_some] at h
      obtain ⟨entries, hentries, ⟨⟩⟩ := Logged.result_bind_eq_ok_iff.mp h
      exact result_tableIn_eq_ok_iff.mpr
        ⟨hheader, hcheck, result_entriesIn_of_readEntries hleft _ _ hentries⟩

/-- A table that is read of a file of bytes is the one that is read of the bytes in memory. -/
theorem exists_sector_of_read (hc : s.file.content = .octets image) {size : Int} {table : Table}
    (h : (read s (.int size)).1.result = .ok table) :
    ∃ sector : Nat, size = sector ∧
      (read (.ofBytes image) (.int sector)).1.result = .ok table := by
  have htable := result_tableIn_of_read hc h
  have h0 : 0 ≤ size := by
    by_contra hneg
    obtain ⟨hheader, -⟩ := result_tableIn_eq_ok_iff.mp htable
    rw [Layout.unpackIn, if_pos (Int.not_le.mp hneg)] at hheader
    cases hheader
  obtain ⟨sector, rfl⟩ := Int.eq_ofNat_of_zero_le h0
  exact ⟨sector, rfl, (result_read_of_serves (Stream.serves_ofBytes image) _).trans htable⟩

def startAt (image : Bytes) (sector : Nat) : Nat := numberAt image (sector + 72) 8 * sector

def countAt (image : Bytes) (sector : Nat) : Nat := numberAt image (sector + 80) 4

def strideAt (image : Bytes) (sector : Nat) : Nat := numberAt image (sector + 84) 4

structure HasHeader (image : Bytes) (sector : Nat) : Prop where
  inside : sector + 92 ≤ image.length
  signed : (image.drop sector).take 8 = signature
  spaced : 128 ≤ strideAt image sector

/-- The entries lie in the image as well. The last one does not need all of its stride. -/
structure HasTable (image : Bytes) (sector : Nat) : Prop extends HasHeader image sector where
  entries : countAt image sector = 0 ∨
    startAt image sector + (countAt image sector - 1) * strideAt image sector + 128 ≤ image.length

section
variable {sector : Nat} {header : Items Value}

theorem header_of_unpack (hb : sector + 92 ≤ image.length)
    (hu : (headerLayout.unpack image sector).result = .ok header) :
    bytesOf header "signature" = (image.drop sector).take 8 ∧
      intOf header "part_entry_start_lba" * sector = startAt image sector ∧
      intOf header "num_part_entries" = countAt image sector ∧
      intOf header "part_entry_size" = strideAt image sector := by
  have hsignature := bytesOf_unpack hb hu (List.mem_of_getElem? (i := 0) rfl) rfl
  have hstart : intOf header "part_entry_start_lba" = numberAt image (sector + 72) 8 :=
    intOf_unpack hb hu (List.mem_of_getElem? (i := 10) rfl) rfl rfl
  have hcount := intOf_unpack hb hu (List.mem_of_getElem? (i := 11) rfl) rfl rfl
  have hstride := intOf_unpack hb hu (List.mem_of_getElem? (i := 12) rfl) rfl rfl
  exact ⟨hsignature, by rw [hstart, startAt, Int.natCast_mul], hcount, hstride⟩

theorem exists_header_iff : (∃ header, (headerLayout.unpackIn image sector).result = .ok header) ↔
    sector < File.positionLimit ∧ sector + 92 ≤ image.length := by
  have h : (∃ header, (headerLayout.unpackIn image sector).result = .ok header) ↔
      (sector : Int) < File.positionLimit ∧ (sector : Int) + headerLayout.size ≤ image.length :=
    Layout.exists_unpackIn_iff (fun slot hm => (reads_headerLayout slot hm).2)
      (Int.natCast_nonneg sector) (by decide)
  rw [h, size_headerLayout]
  omega

theorem unpackIn_headerLayout (hs : sector < File.positionLimit) (hb : sector + 92 ≤ image.length) :
    headerLayout.unpackIn image sector = headerLayout.unpack image sector :=
  Layout.unpackIn_of_inside (Int.natCast_nonneg sector) (by omega)
    (by rw [size_headerLayout]; omega)

/-- A header is read and accepted when the image has one where a file has a position. -/
theorem accepted_iff : (headerLayout.unpackIn image sector).result = .ok header ∧
      checkHeader header = .ok () ↔
    sector < File.positionLimit ∧ HasHeader image sector ∧
      (headerLayout.unpack image sector).result = .ok header := by
  rw [checkHeader_eq_ok_iff, size_entryLayout]
  constructor
  · rintro ⟨hu, hsigned, hspaced⟩
    obtain ⟨hs, hb⟩ := exists_header_iff.mp ⟨header, hu⟩
    rw [unpackIn_headerLayout hs hb] at hu
    obtain ⟨hsignature, -, -, hstride⟩ := header_of_unpack hb hu
    exact ⟨hs, ⟨hb, hsignature.symm.trans hsigned, by omega⟩, hu⟩
  · rintro ⟨hs, ⟨hb, hsigned, hspaced⟩, hu⟩
    obtain ⟨hsignature, -, -, hstride⟩ := header_of_unpack hb hu
    rw [unpackIn_headerLayout hs hb]
    exact ⟨hu, hsignature.trans hsigned, by omega⟩

theorem exists_entry_iff {o : Nat} :
    (∃ items, (entryLayout.unpackIn image o).result = .ok items) ↔
      o < File.positionLimit ∧ o + 128 ≤ image.length := by
  have h : (∃ items, (entryLayout.unpackIn image o).result = .ok items) ↔
      (o : Int) < File.positionLimit ∧ (o : Int) + entryLayout.size ≤ image.length :=
    Layout.exists_unpackIn_iff (fun slot hm => (reads_entryLayout slot hm).2)
      (Int.natCast_nonneg o) (by decide)
  rw [h, size_entryLayout]
  omega

theorem unpackIn_entryLayout {o : Nat} (ho : o < File.positionLimit) (hb : o + 128 ≤ image.length) :
    entryLayout.unpackIn image o = entryLayout.unpack image o :=
  Layout.unpackIn_of_inside (Int.natCast_nonneg o) (by omega) (by rw [size_entryLayout]; omega)

/-- The entries that a header tells of. -/
theorem entriesIn_of_unpack (hb : sector + 92 ≤ image.length)
    (hu : (headerLayout.unpack image sector).result = .ok header) :
    entriesIn image (intOf header "part_entry_start_lba" * sector)
        (intOf header "part_entry_size") (intOf header "num_part_entries").toNat =
      (List.range (countAt image sector)).mapM fun i : Nat =>
        entryLayout.unpackIn image (startAt image sector + i * strideAt image sector : Nat) := by
  obtain ⟨-, hstart, hcount, hstride⟩ := header_of_unpack hb hu
  rw [hstart, hcount, hstride, Int.toNat_natCast, entriesIn]
  simp only [Int.natCast_add, Int.natCast_mul]

theorem result_read_eq_ok_iff {table : Table} :
    (read (.ofBytes image) (.int sector)).1.result = .ok table ↔
      sector < File.positionLimit ∧ HasHeader image sector ∧
      (headerLayout.unpack image sector).result = .ok table.header ∧
      ((List.range (countAt image sector)).mapM fun i : Nat => entryLayout.unpackIn image
        (startAt image sector + i * strideAt image sector : Nat)).result = .ok table.entries := by
  rw [result_read_of_serves (Stream.serves_ofBytes image), result_tableIn_eq_ok_iff, ← and_assoc,
    accepted_iff]
  constructor
  · rintro ⟨⟨hs, hh, hu⟩, he⟩
    exact ⟨hs, hh, hu, entriesIn_of_unpack hh.inside hu ▸ he⟩
  · rintro ⟨hs, hh, hu, he⟩
    exact ⟨⟨hs, hh, hu⟩, (entriesIn_of_unpack hh.inside hu).symm ▸ he⟩

/-- The entries of a table that was read lie in the image, each where its number says. -/
theorem entries_of_read {table : Table}
    (h : (read (.ofBytes image) (.int sector)).1.result = .ok table) :
    table.entries.length = countAt image sector ∧
      ∀ i < countAt image sector, ∃ entry, table.entries[i]? = some entry ∧
        startAt image sector + i * strideAt image sector + 128 ≤ image.length ∧
        (entryLayout.unpack image
          (startAt image sector + i * strideAt image sector : Nat)).result = .ok entry := by
  obtain ⟨-, -, -, he⟩ := result_read_eq_ok_iff.mp h
  obtain ⟨hlength, hget⟩ := Logged.result_mapM_range_eq_ok_iff.mp he
  refine ⟨hlength, fun i hi => ?_⟩
  obtain ⟨entry, hentry, hu⟩ := hget i hi
  obtain ⟨ho, hb⟩ := exists_entry_iff.mp ⟨entry, hu⟩
  rw [unpackIn_entryLayout ho hb] at hu
  exact ⟨entry, hentry, hb, hu⟩

theorem hasTable_of_read {table : Table}
    (h : (read (.ofBytes image) (.int sector)).1.result = .ok table) : HasTable image sector := by
  obtain ⟨-, hh, -, -⟩ := result_read_eq_ok_iff.mp h
  refine ⟨hh, ?_⟩
  rcases Nat.eq_zero_or_pos (countAt image sector) with hzero | hpos
  · exact Or.inl hzero
  · obtain ⟨_, -, hb, -⟩ := (entries_of_read h).2 (countAt image sector - 1) (by omega)
    exact Or.inr hb

theorem exists_header_of_inside (hs : sector < File.positionLimit)
    (hb : sector + 92 ≤ image.length) :
    ∃ header, (headerLayout.unpack image sector).result = .ok header := by
  obtain ⟨header, hu⟩ := exists_header_iff.mpr ⟨hs, hb⟩
  rw [unpackIn_headerLayout hs hb] at hu
  exact ⟨header, hu⟩

/-- When the last entry lies in the image, so do all before it. -/
theorem HasTable.exists_read (h : HasTable image sector)
    (hlimit : image.length < File.positionLimit) :
    ∃ table, (read (.ofBytes image) (.int sector)).1.result = .ok table := by
  obtain ⟨hh, hlast⟩ := h
  have hs : sector < File.positionLimit := by
    have hinside := hh.inside
    omega
  have hentries : ∀ i ∈ List.range (countAt image sector), ∃ entry,
      (entryLayout.unpackIn image
        (startAt image sector + i * strideAt image sector : Nat)).result = .ok entry := by
    intro i hi
    have hlt := List.mem_range.mp hi
    have hle : i * strideAt image sector ≤ (countAt image sector - 1) * strideAt image sector :=
      Nat.mul_le_mul_right _ (by omega)
    exact exists_entry_iff.mpr (by omega)
  obtain ⟨header, hu⟩ := exists_header_of_inside hs hh.inside
  obtain ⟨entries, he⟩ := Logged.exists_result_mapM hentries
  exact ⟨⟨header, entries⟩, result_read_eq_ok_iff.mpr ⟨hs, hh, hu, he⟩⟩

end

/-- There is a table exactly when the image has one, and then it is that of the image. -/
theorem read_outcome (h : image.length < File.positionLimit) (sector : Nat) :
    ((∃ table, (read (.ofBytes image) (.int sector)).1.result = .ok table) ↔
      HasTable image sector) ∧
    (sector + 92 ≤ image.length → ∃ header,
      (headerLayout.unpack image sector).result = .ok header ∧
      bytesOf header "signature" = (image.drop sector).take 8 ∧
      intOf header "part_entry_start_lba" * sector = startAt image sector ∧
      intOf header "num_part_entries" = countAt image sector ∧
      intOf header "part_entry_size" = strideAt image sector) ∧
    ∀ table, (read (.ofBytes image) (.int sector)).1.result = .ok table →
      (headerLayout.unpack image sector).result = .ok table.header ∧
      table.entries.length = countAt image sector ∧
      ∀ i < countAt image sector, ∃ entry, table.entries[i]? = some entry ∧
        (entryLayout.unpack image
          (startAt image sector + i * strideAt image sector : Nat)).result = .ok entry := by
  refine ⟨⟨?_, fun ht => ht.exists_read h⟩, ?_, ?_⟩
  · rintro ⟨table, ht⟩
    exact hasTable_of_read ht
  · intro hb
    obtain ⟨header, hu⟩ := exists_header_of_inside (by omega) hb
    exact ⟨header, hu, header_of_unpack hb hu⟩
  · intro table ht
    obtain ⟨-, -, hu, -⟩ := result_read_eq_ok_iff.mp ht
    obtain ⟨hlength, hget⟩ := entries_of_read ht
    refine ⟨hu, hlength, fun i hi => ?_⟩
    obtain ⟨entry, hentry, -, he⟩ := hget i hi
    exact ⟨entry, hentry, he⟩

def headerBytes (start count stride : Nat) : Bytes :=
  signature ++ List.replicate 64 0 ++ littleBytes 8 start ++ littleBytes 4 count ++
    littleBytes 4 stride ++ List.replicate 4 0

/-- Blocks of one byte, the second of which starts a table of two entries. The last entry ends
where the image does, two bytes before the next one would start. -/
def narrowImage : Bytes := 0 :: headerBytes 93 2 130 ++ List.replicate 258 7

theorem read_narrowImage :
    ∃ table, (read (.ofBytes narrowImage) (.int (1 : Nat))).1.result = .ok table ∧
      table.entries.length = 2 := by
  have hlength : narrowImage.length < File.positionLimit := by decide +kernel
  have htable : HasTable narrowImage 1 :=
    ⟨⟨by decide +kernel, by decide +kernel, by decide +kernel⟩, Or.inr (by decide +kernel)⟩
  obtain ⟨hiff, -, hread⟩ := read_outcome hlength 1
  obtain ⟨table, ht⟩ := hiff.mpr htable
  exact ⟨table, ht, (hread table ht).2.1⟩

section
variable {sector : Nat} {fault : Fault}

/-- An entry whose position no file has, and before it only entries that lie in the image. -/
def Strays (image : Bytes) (sector : Nat) : Prop :=
  ∃ i < countAt image sector,
    File.positionLimit ≤ startAt image sector + i * strideAt image sector ∧
    ∀ j < i, startAt image sector + j * strideAt image sector < File.positionLimit ∧
      startAt image sector + j * strideAt image sector + 128 ≤ image.length

theorem result_read_of_strays (hs : sector < File.positionLimit) (hh : HasHeader image sector)
    (hstrays : Strays image sector) :
    (read (.ofBytes image) (.int sector)).1.result = .error (.bare .tooLarge) := by
  obtain ⟨i, hi, hbeyond, hbefore⟩ := hstrays
  obtain ⟨header, hu⟩ := exists_header_of_inside hs hh.inside
  obtain ⟨haccepted, hcheck⟩ := accepted_iff.mpr ⟨hs, hh, hu⟩
  rw [result_read_of_serves (Stream.serves_ofBytes image), result_tableIn_eq_error_iff]
  refine Or.inr ⟨header, haccepted, Or.inr ⟨hcheck, ?_⟩⟩
  rw [entriesIn_of_unpack hh.inside hu, Logged.result_mapM_range_eq_error_iff]
  refine ⟨i, hi, fun j hj => exists_entry_iff.mpr (hbefore j hj), ?_⟩
  rw [Layout.unpackIn_of_beyond (by omega)]
  rfl

theorem read_eq_error (hs : sector < File.positionLimit)
    (h : (read (.ofBytes image) (.int sector)).1.result = .error fault) :
    (∃ chain reason, fault = .layout .unpack chain reason) ∨
      fault = .bare .tooLarge ∧ HasHeader image sector ∧ Strays image sector := by
  rw [result_read_of_serves (Stream.serves_ofBytes image), result_tableIn_eq_error_iff] at h
  rcases h with h | ⟨header, hu, h | ⟨hcheck, h⟩⟩
  · rcases Layout.unpackIn_eq_error (fun slot hm => (reads_headerLayout slot hm).2)
      (Int.natCast_nonneg sector) (by decide) h with ⟨ho, -⟩ | ⟨-, hf⟩
    · omega
    · exact Or.inl hf
  · exact Or.inl (checkHeader_eq_error h)
  · obtain ⟨-, hh, hu⟩ := accepted_iff.mp ⟨hu, hcheck⟩
    rw [entriesIn_of_unpack hh.inside hu, Logged.result_mapM_range_eq_error_iff] at h
    obtain ⟨i, hi, hbefore, h⟩ := h
    rcases Layout.unpackIn_eq_error (fun slot hm => (reads_entryLayout slot hm).2)
      (Int.natCast_nonneg _) (by decide) h with ⟨ho, hf⟩ | ⟨-, hf⟩
    · exact Or.inr ⟨hf, hh, i, hi, by omega, fun j hj => exists_entry_iff.mp (hbefore j hj)⟩
    · exact Or.inl hf

end

/-- What goes wrong is told by a layout, unless an entry is where no file has a position. -/
theorem read_failure {sector : Nat} (hs : sector < File.positionLimit) :
    (∀ fault, (read (.ofBytes image) (.int sector)).1.result = .error fault →
      (∃ chain reason, fault = .layout .unpack chain reason) ∨ fault = .bare .tooLarge) ∧
    ((read (.ofBytes image) (.int sector)).1.result = .error (.bare .tooLarge) ↔
      HasHeader image sector ∧ Strays image sector) := by
  refine ⟨fun fault h => ?_, ⟨fun h => ?_, fun h => result_read_of_strays hs h.1 h.2⟩⟩
  · rcases read_eq_error hs h with hf | ⟨hf, -⟩
    · exact Or.inl hf
    · exact Or.inr hf
  · rcases read_eq_error hs h with ⟨chain, reason, hf⟩ | ⟨-, h⟩
    · cases hf
    · exact h

def farImage : Bytes := 0 :: headerBytes File.positionLimit 1 128

theorem strays_farImage : HasHeader farImage 1 ∧ Strays farImage 1 := by
  refine ⟨⟨by decide +kernel, by decide +kernel, by decide +kernel⟩,
    0, by decide +kernel, by decide +kernel, ?_⟩
  intro j hj
  exact absurd hj (Nat.not_lt_zero j)

theorem read_failure_farImage :
    (read (.ofBytes farImage) (.int (1 : Nat))).1.result = .error (.bare .tooLarge) :=
  (read_failure (by decide +kernel)).2.mpr strays_farImage

/-- Of an entry that is too far away neither a table is made nor anything told. -/
theorem read_farImage_untold :
    1 < File.positionLimit ∧
    ¬((∃ table, (read (.ofBytes farImage) (.int (1 : Nat))).1.result = .ok table) ∨
      ∃ chain reason, (read (.ofBytes farImage) (.int (1 : Nat))).1.result =
        .error (.layout .unpack chain reason)) := by
  have hlimit : 1 < File.positionLimit := by decide +kernel
  have hread := result_read_of_strays hlimit strays_farImage.1 strays_farImage.2
  refine ⟨hlimit, ?_⟩
  rintro (⟨table, h⟩ | ⟨chain, reason, h⟩)
  · rw [hread] at h
    cases h
  · rw [hread] at h
    cases h

end ByteLayout.Gpt
