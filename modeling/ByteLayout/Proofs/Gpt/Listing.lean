import ByteLayout.Gpt.Dump
import ByteLayout.Proofs.Gpt.Attributes
import ByteLayout.Proofs.Gpt.Guid
import ByteLayout.Proofs.Gpt.Names
import ByteLayout.Proofs.Gpt.Reading

/-! # What is listed of an image

A listing is told by the bytes of the image: the numbers and the GUIDs of the header, and then one
row for each used entry, in the order of the table and with the number that the entry has in it. A
table that cannot be read has no listing.
-/
namespace ByteLayout

/-! ## Numerals of a fixed width -/

namespace Hex

theorem digit_eq_digitChar : ∀ n < 16, digit n = Nat.digitChar n := by decide

/-- By induction on the width: the last digit is that of the remainder, the digits before it are
those of the quotient. -/
theorem padded_eq_leftpad {width n : Nat} (h : n < 16 ^ (width + 1)) :
    padded (width + 1) n = (Nat.toDigits 16 n).leftpad (width + 1) '0' := by
  induction width generalizing n with
  | zero =>
    have hn : n < 16 := by omega
    rw [padded, padded, Nat.mod_eq_of_lt hn, Nat.toDigits_of_lt_base hn, digit_eq_digitChar n hn]
    rfl
  | succ width ih =>
    have hlast := digit_eq_digitChar (n % 16) (Nat.mod_lt n (by decide))
    rw [padded, ih (Nat.div_lt_of_lt_mul (by omega)), hlast]
    rcases Nat.lt_or_ge n 16 with hn | hn
    · rw [Nat.div_eq_of_lt hn, Nat.mod_eq_of_lt hn, Nat.toDigits_of_lt_base hn, Nat.toDigits_zero]
      exact congrArg (· ++ [n.digitChar]) List.replicate_succ'.symm
    · rw [Nat.toDigits_of_base_le (by decide) hn, List.leftpad, List.leftpad, List.append_assoc,
        List.length_append, List.length_singleton, Nat.add_sub_add_right]

end Hex

namespace Text

theorem of_append (s t : String) : of (s ++ t) = of s ++ of t := by
  rw [of, of, of, String.toList_append, List.map_append]

theorem ofInt_natCast (n : Nat) : ofInt n = ofNat n := rfl

end Text

namespace Gpt

/-! ## What the bytes tell -/

def guidText (raw : Bytes) : Text := (guidChars raw).map Char.toNat

def checksumText (n : Nat) : Text :=
  Text.of "0x" ++ ((Nat.toDigits 16 n).leftpad 8 '0').map Char.toNat

/-- What is said of the header in a sector, line by line. -/
def headerRows (image : Bytes) (sector : Nat) : List (String × Text) :=
  let number (o width : Nat) : Nat := numberAt image (sector + o) width
  [("Signature:", ((image.drop sector).take 8).map UInt8.toNat),
    ("Revision:",
      Text.ofNat (number 8 4 / 65536) ++ Text.of "." ++ Text.ofNat (number 8 4 % 65536)),
    ("Header size:", Text.ofNat (number 12 4) ++ Text.of " (bytes)"),
    ("CRC32:", checksumText (number 16 4)),
    ("Current LBA:", Text.ofNat (number 24 8)),
    ("Backup LBA:", Text.ofNat (number 32 8)),
    ("First usable LBA:", Text.ofNat (number 40 8)),
    ("Last usable LBA:", Text.ofNat (number 48 8)),
    ("Disk GUID:", guidText ((image.drop (sector + 56)).take 16)),
    ("Partition entries start LBA:", Text.ofNat (number 72 8)),
    ("Number of partition entries:", Text.ofNat (number 80 4)),
    ("Size of partition entry:", Text.ofNat (number 84 4) ++ Text.of " (bytes)"),
    ("Partition entries CRC32:", checksumText (number 88 4))]

/-- The values stand below each other. -/
def headerRow (title : String) (t : Text) : Text :=
  (Text.of "  " ++ Text.of title).rightpad 37 32 ++ t ++ Text.of "\n"

def hasType (b : Bytes) : Bool := (b.take 16).any (· != 0)

def flagOf (attributes bit : Nat) (letter : Char) : Nat :=
  if attributes.testBit bit then letter.toNat else 45

def entryRow (i : Nat) (b : Bytes) : Text :=
  let attributes := numberAt b 48 8
  Text.of "  [" ++ (Text.ofNat i).leftpad 2 32 ++ Text.of "] " ++
    (Utf16.decodeUnits false (keptUnits b)).rightpad 20 32 ++ Text.of " " ++
    (Text.ofNat (numberAt b 32 8)).rightpad 12 32 ++ Text.of " " ++
    (Text.ofNat (numberAt b 40 8)).rightpad 12 32 ++ Text.of " " ++
    [flagOf attributes 0 'R', flagOf attributes 1 'N', flagOf attributes 2 'B'] ++ Text.of " " ++
    guidText (b.take 16) ++ Text.of " " ++ guidText ((b.drop 16).take 16) ++ Text.of "\n"

def entryBytes (image : Bytes) (sector i : Nat) : Bytes :=
  (image.drop (startAt image sector + i * strideAt image sector)).take 128

/-- The rows of the entries that are used, each with its number in the table. -/
def rowsOf (entry : Nat → Bytes) (count : Nat) : List Text :=
  ((List.range count).filter fun i => hasType (entry i)).map fun i => entryRow i (entry i)

def listingOf (image : Bytes) (sector : Nat) : Text :=
  Text.of "GPT Header:\n" ++
    (headerRows image sector).flatMap (fun (title, t) => headerRow title t) ++
    Text.of "Partition Entries:\n" ++
    Text.of ("  [Nr] Name                 First LBA    Last LBA     Flg " ++
      "Type GUID                            Unique GUID\n") ++
    (rowsOf (entryBytes image sector) (countAt image sector)).flatten

/-! ## The lines of a header -/

theorem guidOf_eq {items : Items Value} {name : String} {raw : Bytes}
    (h : bytesOf items name = raw) (hl : raw.length = 16) : guidOf items name = guidText raw := by
  have hv : (Value.bytes raw).asBytes? = some raw := rfl
  rw [guidOf, h, guidTextOf_of_length hv hl]
  rfl

theorem checksum_numberAt {b : Bytes} {o : Nat} (h : o + 4 ≤ b.length) :
    checksum (numberAt b o 4) = checksumText (numberAt b o 4) := by
  have hlt := littleNat_lt ((b.drop o).take 4)
  rw [length_take_drop h] at hlt
  have hpadded : Hex.padded (7 + 1) (numberAt b o 4) =
      (Nat.toDigits 16 (numberAt b o 4)).leftpad (7 + 1) '0' := Hex.padded_eq_leftpad hlt
  rw [checksum, Int.toNat_natCast, checksumText]
  exact congrArg (fun digits => Text.of "0x" ++ digits.map Char.toNat) hpadded

theorem row_eq_headerRow (title : String) (t : Text) :
    Text.of "  " ++ padded 35 (Text.of title) ++ t ++ [10] = headerRow title t := by
  have hblanks : 37 - ((Text.of "  ").length + (Text.of title).length) =
      35 - (Text.of title).length := Nat.add_sub_add_left 2 35 _
  rw [headerRow, padded, List.rightpad, List.length_append, hblanks,
    List.append_assoc (Text.of "  ")]
  rfl

theorem headerText_eq (header : Items Value) :
    headerText header = Text.of "GPT Header:\n" ++
      (headerLines header).flatMap fun (title, t) => headerRow title t := by
  simp only [headerText, row_eq_headerRow]

theorem of_revision (high low : Nat) :
    Text.of s!"{high}.{low}" = Text.ofNat high ++ Text.of "." ++ Text.ofNat low := by
  rw [Text.of_append, Text.of_append]
  rfl

section
variable {image : Bytes} {sector : Nat} {header : Items Value} (hb : sector + 92 ≤ image.length)
  (hu : (headerLayout.unpack image sector).result = .ok header)
include hb hu

/-- The lines on a header that was read of the image are those that its bytes tell. -/
theorem headerLines_unpack : headerLines header = headerRows image sector := by
  have hsignature : bytesOf header "signature" = (image.drop sector).take 8 :=
    bytesOf_unpack hb hu (List.mem_of_getElem? (i := 0) rfl) rfl
  have hrevision : intOf header "revision" = numberAt image (sector + 8) 4 :=
    intOf_unpack hb hu (List.mem_of_getElem? (i := 1) rfl) rfl rfl
  have hsize : intOf header "header_size" = numberAt image (sector + 12) 4 :=
    intOf_unpack hb hu (List.mem_of_getElem? (i := 2) rfl) rfl rfl
  have hcrc : intOf header "crc32" = numberAt image (sector + 16) 4 :=
    intOf_unpack hb hu (List.mem_of_getElem? (i := 3) rfl) rfl rfl
  have hcurrent : intOf header "current_lba" = numberAt image (sector + 24) 8 :=
    intOf_unpack hb hu (List.mem_of_getElem? (i := 5) rfl) rfl rfl
  have hbackup : intOf header "backup_lba" = numberAt image (sector + 32) 8 :=
    intOf_unpack hb hu (List.mem_of_getElem? (i := 6) rfl) rfl rfl
  have hfirst : intOf header "first_usable_lba" = numberAt image (sector + 40) 8 :=
    intOf_unpack hb hu (List.mem_of_getElem? (i := 7) rfl) rfl rfl
  have hlast : intOf header "last_usable_lba" = numberAt image (sector + 48) 8 :=
    intOf_unpack hb hu (List.mem_of_getElem? (i := 8) rfl) rfl rfl
  have hguid : bytesOf header "disk_guid" = (image.drop (sector + 56)).take 16 :=
    bytesOf_unpack hb hu (List.mem_of_getElem? (i := 9) rfl) rfl
  have hstart : intOf header "part_entry_start_lba" = numberAt image (sector + 72) 8 :=
    intOf_unpack hb hu (List.mem_of_getElem? (i := 10) rfl) rfl rfl
  have hcount : intOf header "num_part_entries" = numberAt image (sector + 80) 4 :=
    intOf_unpack hb hu (List.mem_of_getElem? (i := 11) rfl) rfl rfl
  have hstride : intOf header "part_entry_size" = numberAt image (sector + 84) 4 :=
    intOf_unpack hb hu (List.mem_of_getElem? (i := 12) rfl) rfl rfl
  have hentries : intOf header "crc32_part_entries" = numberAt image (sector + 88) 4 :=
    intOf_unpack hb hu (List.mem_of_getElem? (i := 13) rfl) rfl rfl
  have hl : ((image.drop (sector + 56)).take 16).length = 16 := length_take_drop (by omega)
  have hchecksum : ∀ o ≤ 88,
      checksum (numberAt image (sector + o) 4) = checksumText (numberAt image (sector + o) 4) :=
    fun o ho => checksum_numberAt (by omega)
  simp only [headerLines, headerRows, hsignature, hrevision, hsize, hcrc, hcurrent, hbackup,
    hfirst, hlast, guidOf_eq hguid hl, hstart, hcount, hstride, hentries, Text.ofInt_natCast,
    Int.toNat_natCast, of_revision, hchecksum 16 (by decide), hchecksum 88 (by decide)]

end
/-! ## The row of an entry -/

section
variable {b : Bytes} {items : Items Value} (hb : b.length = 128)
  (hu : (entryLayout.unpack b 0).result = .ok items)
include hb hu

theorem textOf_unpack_name : textOf items "name" = Utf16.decodeUnits false (keptUnits b) := by
  have hsize : 0 + 128 ≤ b.length := by omega
  have hm : (56, ⟨"name", .custom (.int nameSize) nameCodec, 72, rfl⟩) ∈ entryLayout.placed :=
    List.mem_of_getElem? (i := 5) rfl
  obtain ⟨v, hv, hd⟩ := Layout.get?_of_unpack hsize hu hm
  obtain rfl := Except.ok.inj ((decodeName_entry hb .little).symm.trans hd)
  rw [textOf, hv]

theorem flag_unpack {bit : Nat} (hbit : bit < 64) (letter : Char) :
    flag items bit letter = flagOf (numberAt b 48 8) bit letter := by
  have hsize : 0 + 128 ≤ b.length := by omega
  have hattribute := hasAttribute_of_unpack hsize hu bit
  rw [if_pos hbit, Nat.zero_add] at hattribute
  rw [flag, hattribute, flagOf]
  cases (numberAt b 48 8).testBit bit <;> rfl

/-- The row on an entry that was read of its bytes is the one that they tell. -/
theorem row_unpack (i : Nat) : (Shown.ofEntry items).row i = entryRow i b := by
  have hsize : 0 + 128 ≤ b.length := by omega
  have htype : bytesOf items "partition_type_guid" = b.take 16 :=
    bytesOf_unpack hsize hu (List.mem_of_getElem? (i := 0) rfl) rfl
  have hunique : bytesOf items "unique_guid" = (b.drop 16).take 16 :=
    bytesOf_unpack hsize hu (List.mem_of_getElem? (i := 1) rfl) rfl
  have hfirst : intOf items "first_lba" = numberAt b 32 8 :=
    intOf_unpack hsize hu (List.mem_of_getElem? (i := 2) rfl) rfl rfl
  have hlast : intOf items "last_lba" = numberAt b 40 8 :=
    intOf_unpack hsize hu (List.mem_of_getElem? (i := 3) rfl) rfl rfl
  have hflags : flags items = [flagOf (numberAt b 48 8) 0 'R', flagOf (numberAt b 48 8) 1 'N',
      flagOf (numberAt b 48 8) 2 'B'] := by
    rw [flags, flag_unpack hb hu (by decide), flag_unpack hb hu (by decide),
      flag_unpack hb hu (by decide)]
  have hl : (b.take 16).length = 16 := List.length_take_of_le (by omega)
  have hl' : ((b.drop 16).take 16).length = 16 := length_take_drop (by omega)
  have hjoined (t₁ t₂ t₃ t₄ t₅ t₆ : Text) : Text.joined [32] [t₁, t₂, t₃, t₄, t₅, t₆] =
      t₁ ++ [32] ++ t₂ ++ [32] ++ t₃ ++ [32] ++ t₄ ++ [32] ++ t₅ ++ [32] ++ t₆ := by
    simp only [Text.joined, List.intersperse, List.flatten_cons, List.flatten_nil,
      List.append_nil, List.append_assoc]
  rw [Shown.row, Shown.ofEntry, textOf_unpack_name hb hu, hfirst, hlast, hflags, guidOf_eq htype hl,
    guidOf_eq hunique hl', hjoined, Text.ofInt_natCast, Text.ofInt_natCast]
  simp only [← List.append_assoc]
  rfl

theorem isUsedEntry_unpack : isUsedEntry items = hasType b := by
  have hsize : 0 + 128 ≤ b.length := by omega
  have htype : items.get? "partition_type_guid" = some (.buffer (b.take 16)) :=
    get?_unpack_bytes hsize hu (List.mem_of_getElem? (i := 0) rfl) rfl
  have hused : isUsed items =
      .ok (((b.take 16).map fun x => Value.int x.toNat).any Value.truthy) := by
    rw [isUsed, htype]
    rfl
  have htruthy : ∀ x : UInt8, (Value.int x.toNat).truthy = (x != 0) := by
    intro x
    rw [Value.truthy, Bool.eq_iff_iff, bne_iff_ne, bne_iff_ne, ne_eq, ne_eq, Int.natCast_eq_zero,
      ← UInt8.toNat_inj]
    rfl
  rw [isUsedEntry, hused, List.any_map, hasType]
  exact congrArg (List.any _) (funext htruthy)

end

/-! ## The rows of a table -/

/-- By induction on the entries. The rest of a row of entries has the bytes of the entries from the
second on, and their numbers are one less in it. -/
theorem rows_eq (start : Nat) {entries : List (Items Value)} {entry : Nat → Bytes}
    (h : ∀ (i : Nat) (items : Items Value), entries[i]? = some items →
      (entry i).length = 128 ∧ (entryLayout.unpack (entry i) 0).result = .ok items) :
    rows start entries = ((List.range entries.length).filter fun i => hasType (entry i)).map
      fun i => entryRow (start + i) (entry i) := by
  induction entries generalizing start entry with
  | nil => rfl
  | cons items rest ih =>
    obtain ⟨hb, hu⟩ := h 0 items rfl
    have hrest := ih (start + 1) fun i items hi => h (i + 1) items hi
    have hmoved : (fun i => entryRow (start + i) (entry i)) ∘ Nat.succ =
        fun i => entryRow (start + 1 + i) (entry (i + 1)) := by
      funext i
      exact congrArg (entryRow · _) (by omega)
    rw [rows, isUsedEntry_unpack hb hu, row_unpack hb hu, hrest, List.length_cons,
      List.range_succ_eq_map, List.filter_cons, List.filter_map]
    split_ifs with hused
    · rw [List.map_cons, List.map_map, hmoved]
      rfl
    · rw [List.map_map, hmoved]
      rfl

theorem rows_of_read {image : Bytes} {sector : Nat} {table : Table}
    (h : (read (.ofBytes image) (.int sector)).1.result = .ok table) :
    rows 0 table.entries = rowsOf (entryBytes image sector) (countAt image sector) := by
  obtain ⟨hlength, hget⟩ := entries_of_read h
  have hentries : ∀ (i : Nat) (items : Items Value), table.entries[i]? = some items →
      (entryBytes image sector i).length = 128 ∧
        (entryLayout.unpack (entryBytes image sector i) 0).result = .ok items := by
    intro i items hi
    obtain ⟨hlt, -⟩ := List.getElem?_eq_some_iff.mp hi
    obtain ⟨items', hi', hb, hu⟩ := hget i (hlength ▸ hlt)
    obtain rfl := Option.some.inj (hi'.symm.trans hi)
    refine ⟨length_take_drop hb, ?_⟩
    rwa [Layout.unpack_eq_window (fun slot hm => (reads_entryLayout slot hm).1) hb] at hu
  rw [rows_eq 0 hentries, hlength, rowsOf]
  simp only [Nat.zero_add]

/-! ## The listing -/

section
variable {fileOf : Text → Except Fault File} {path : Text} {arguments : List Text} {size : Int}
  {file : File} (hsize : sectorSizeOf arguments = .ok size) (hfile : fileOf path = .ok file)
include hsize hfile

theorem list_of_read {table : Table}
    (h : (read (.direct file true) (.int size)).1.result = .ok table) :
    list fileOf (path :: arguments) = .ok (.table (tableText table)) := by
  simp only [list, hsize, hfile, h, bind, Except.bind]
  rfl

theorem list_of_refused {kind : LayoutFault} {chain : List Value} {reason : Reason}
    (h : (read (.direct file true) (.int size)).1.result = .error (.layout kind chain reason)) :
    list fileOf (path :: arguments) =
      .ok (.refused (refusal path (.layout kind chain reason))) := by
  simp only [list, hsize, hfile, h, bind, Except.bind]
  rfl

/-- Of an image whose table is read there is the listing that its bytes tell. Of one whose table a
layout refuses nothing is listed, and the refusal is logged. -/
theorem list_outcome {image : Bytes} (hc : file.content = .octets image) :
    (∀ table, (read (.direct file true) (.int size)).1.result = .ok table →
      ∃ sector : Nat, size = sector ∧ HasTable image sector ∧
        (headerLayout.unpack image sector).result = .ok table.header ∧
        ∃ listing, list fileOf (path :: arguments) = .ok listing ∧
          listing.output = listingOf image sector ∧
          listing.logged? = none ∧ listing.status = 0) ∧
    ∀ kind chain reason,
      (read (.direct file true) (.int size)).1.result = .error (.layout kind chain reason) →
        ∃ listing, list fileOf (path :: arguments) = .ok listing ∧ listing.output = [] ∧
          listing.logged? = some (refusal path (.layout kind chain reason)) ∧
          listing.status = 2 := by
  refine ⟨fun table h => ?_, fun kind chain reason h =>
    ⟨_, list_of_refused hsize hfile h, rfl, rfl, rfl⟩⟩
  have hdirect : (Stream.direct file true).file.content = .octets image := hc
  obtain ⟨sector, rfl, hread⟩ := exists_sector_of_read hdirect h
  obtain ⟨-, hh, hheader, -⟩ := result_read_eq_ok_iff.mp hread
  refine ⟨sector, rfl, hasTable_of_read hread, hheader, _, list_of_read hsize hfile h, ?_, rfl, rfl⟩
  rw [Listing.output, tableText, rows_of_read hread, headerText_eq,
    headerLines_unpack hh.inside hheader, entriesTitle, ← List.append_assoc]
  rfl

end

def onDisk (image : Bytes) : File :=
  ⟨.disk ⟨File.positionLimit, Value.fixedLimit⟩, .octets image, 0, true⟩

def disk (image : Bytes) (_ : Text) : Except Fault File := .ok (onDisk image)

def systemEntry (first last attributes : Nat) (name : String) : Bytes :=
  systemType ++ List.replicate 16 255 ++ littleBytes 8 first ++ littleBytes 8 last ++
    littleBytes 8 attributes ++ nameBytes (Text.of name)

/-- Blocks of one byte, the second of which starts a table of three entries. The one in the middle
is not used. -/
def sparseImage : Bytes :=
  0 :: headerBytes 93 3 128 ++ (systemEntry 34 2047 5 "boot" ++ List.replicate 128 0 ++
    systemEntry 2048 4095 2 "data")

theorem list_sparseImage :
    (∃ listing, list (disk sparseImage) [Text.of "disk.img", Text.of "1"] = .ok listing ∧
      listing.output = listingOf sparseImage 1 ∧ listing.logged? = none ∧ listing.status = 0) ∧
    headerRows sparseImage 1 =
      [("Signature:", Text.of "EFI PART"), ("Revision:", Text.of "0.0"),
        ("Header size:", Text.of "0 (bytes)"), ("CRC32:", Text.of "0x00000000"),
        ("Current LBA:", Text.of "0"), ("Backup LBA:", Text.of "0"),
        ("First usable LBA:", Text.of "0"), ("Last usable LBA:", Text.of "0"),
        ("Disk GUID:", Text.of "00000000-0000-0000-0000-000000000000"),
        ("Partition entries start LBA:", Text.of "93"),
        ("Number of partition entries:", Text.of "3"),
        ("Size of partition entry:", Text.of "128 (bytes)"),
        ("Partition entries CRC32:", Text.of "0x00000000")] ∧
    rowsOf (entryBytes sparseImage 1) (countAt sparseImage 1) =
      [Text.of "  [ 0] boot                 34           2047         R-B " ++
          Text.of "C12A7328-F81F-11D2-BA4B-00A0C93EC93B " ++
          Text.of "FFFFFFFF-FFFF-FFFF-FFFF-FFFFFFFFFFFF\n",
        Text.of "  [ 2] data                 2048         4095         -N- " ++
          Text.of "C12A7328-F81F-11D2-BA4B-00A0C93EC93B " ++
          Text.of "FFFFFFFF-FFFF-FFFF-FFFF-FFFFFFFFFFFF\n"] ∧
    ∃ listing, list (disk (List.replicate 92 0)) [Text.of "disk.img", Text.of "0"] =
        .ok listing ∧ listing.output = [] ∧
      listing.logged? = some (refusal (Text.of "disk.img") (.layout .unpack
        [.ofString "GPTHeader", .ofString "signature"] (.wrongSignature (List.replicate 8 0)))) ∧
      listing.status = 2 := by
  have hok : (read (.direct (onDisk sparseImage) true) (.int 1)).1.result.isOk = true := by
    decide +kernel
  have hrefused : (read (.direct (onDisk (List.replicate 92 0)) true) (.int 0)).1.result =
      .error (.layout .unpack [.ofString "GPTHeader", .ofString "signature"]
        (.wrongSignature (List.replicate 8 0))) := by rfl
  have hfile : ∀ image, disk image (Text.of "disk.img") = .ok (onDisk image) := fun _ => rfl
  have hsize : sectorSizeOf [Text.of "1"] = .ok 1 := rfl
  have hzero : sectorSizeOf [Text.of "0"] = .ok 0 := rfl
  refine ⟨?_, by decide +kernel, by decide +kernel, ?_⟩
  · cases hread : (read (.direct (onDisk sparseImage) true) (.int 1)).1.result with
    | error fault =>
      rw [hread] at hok
      cases hok
    | ok table =>
      obtain ⟨sector, hsector, -, -, listing, hlist, houtput, hlogged, hstatus⟩ :=
        (list_outcome hsize (hfile sparseImage) rfl).1 table hread
      obtain rfl : sector = 1 := by omega
      exact ⟨listing, hlist, houtput, hlogged, hstatus⟩
  · exact (list_outcome hzero (hfile (List.replicate 92 0)) rfl).2 _ _ _ hrefused

end Gpt

end ByteLayout
