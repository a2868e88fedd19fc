import ByteLayout.Gpt.Guid
import ByteLayout.Gpt.Table
import ByteLayout.Text.Numeral

/-! # Listing a partition table

The header is listed line by line and then one row for each used entry, with the index
that it has among all of them.
-/
namespace ByteLayout.Gpt

def guidOf (items : Items Value) (name : String) : Text :=
  match guidTextOf (.bytes (bytesOf items name)) with
  | .ok t => t
  | .error _ => []

def checksum (n : Int) : Text := Text.of "0x" ++ (Hex.padded 8 n.toNat).map Char.toNat

def padded (width : Nat) (t : Text) : Text := t ++ List.replicate (width - t.length) 32

def headerLines (header : Items Value) : List (String × Text) :=
  let number (name : String) : Text := Text.ofInt (intOf header name)
  let revision := (intOf header "revision").toNat
  [("Signature:", (bytesOf header "signature").map UInt8.toNat),
    ("Revision:", Text.of s!"{revision / 65536}.{revision % 65536}"),
    ("Header size:", number "header_size" ++ Text.of " (bytes)"),
    ("CRC32:", checksum (intOf header "crc32")),
    ("Current LBA:", number "current_lba"),
    ("Backup LBA:", number "backup_lba"),
    ("First usable LBA:", number "first_usable_lba"),
    ("Last usable LBA:", number "last_usable_lba"),
    ("Disk GUID:", guidOf header "disk_guid"),
    ("Partition entries start LBA:", number "part_entry_start_lba"),
    ("Number of partition entries:", number "num_part_entries"),
    ("Size of partition entry:", number "part_entry_size" ++ Text.of " (bytes)"),
    ("Partition entries CRC32:", checksum (intOf header "crc32_part_entries"))]

def headerText (header : Items Value) : Text :=
  Text.of "GPT Header:\n" ++ (headerLines header).flatMap fun (title, t) =>
    Text.of "  " ++ padded 35 (Text.of title) ++ t ++ [10]

def flag (entry : Items Value) (bit : Nat) (letter : Char) : Nat :=
  match hasAttribute entry (.int bit) with
  | .ok true => letter.toNat
  | _ => 45

def flags (entry : Items Value) : Text := [flag entry 0 'R', flag entry 1 'N', flag entry 2 'B']

structure Shown where
  name : Text
  firstLba : Int
  lastLba : Int
  flags : Text
  typeGuid : Text
  uniqueGuid : Text
deriving DecidableEq, Repr

namespace Shown

def ofEntry (entry : Items Value) : Shown where
  name := textOf entry "name"
  firstLba := intOf entry "first_lba"
  lastLba := intOf entry "last_lba"
  flags := Gpt.flags entry
  typeGuid := guidOf entry "partition_type_guid"
  uniqueGuid := guidOf entry "unique_guid"

def row (index : Nat) (shown : Shown) : Text :=
  let number := Text.ofNat index
  Text.of "  [" ++ List.replicate (2 - number.length) 32 ++ number ++ Text.of "] " ++
    Text.joined [32]
      [padded 20 shown.name, padded 12 (Text.ofInt shown.firstLba),
        padded 12 (Text.ofInt shown.lastLba), shown.flags, shown.typeGuid, shown.uniqueGuid] ++
    [10]

end Shown

def entriesTitle : Text :=
  Text.of "Partition Entries:\n" ++
    Text.of ("  [Nr] Name                 First LBA    Last LBA     Flg " ++
      "Type GUID                            Unique GUID\n")

def isUsedEntry (entry : Items Value) : Bool :=
  match isUsed entry with
  | .ok used => used
  | .error _ => false

/-- The rows of the used entries, the first entry of all having the index `start`. -/
def rows (start : Nat) : List (Items Value) → List Text
  | [] => []
  | entry :: rest =>
    if isUsedEntry entry then (Shown.ofEntry entry).row start :: rows (start + 1) rest
    else rows (start + 1) rest

def tableText (table : Table) : Text :=
  headerText table.header ++ entriesTitle ++ (rows 0 table.entries).flatten

/-- How a listing ends, other than by a fault that is no fault of the table. -/
inductive Listing where
  | usage
  | table (t : Text)
  | refused (message : Text)

namespace Listing

def output : Listing → Text
  | usage => Text.of "usage: gptdump.py <disk image> [sector size]\n"
  | table t => t
  | refused _ => []

def status : Listing → Nat
  | usage => 1
  | table _ => 0
  | refused _ => 2

def logged? : Listing → Option Text
  | refused message => some message
  | _ => none

end Listing

def sectorSizeOf : List Text → Except Fault Int
  | [] => .ok sectorSize
  | t :: _ =>
    match Text.integer? t with
    | some n => .ok n
    | none => .error (.bare .badValue)

def refusal (path : Text) (fault : Fault) : Text :=
  Text.of "failed to read the GPT of '" ++ path ++ Text.of "': " ++ fault.text?.getD []

def list (fileOf : Text → Except Fault File) : List Text → Except Fault Listing
  | [] => .ok .usage
  | path :: arguments => do
    let size ← sectorSizeOf arguments
    let file ← fileOf path
    match (read (.direct file true) (.int size)).1.result with
    | .ok table => return .table (tableText table)
    | .error fault@(.layout ..) => return .refused (refusal path fault)
    | .error fault => throw fault

end ByteLayout.Gpt
