import ByteLayout.Gpt.Layouts
import ByteLayout.Stream.Unpack

/-! # Reading a partition table

The header stands in the second sector and tells where the entries start, how far apart
they are and how many there are. They are read one by one, the first fault ends the reading.
-/
namespace ByteLayout.Gpt

def signature : Bytes := [0x45, 0x46, 0x49, 0x20, 0x50, 0x41, 0x52, 0x54]

def sectorSize : Nat := 512

structure Table where
  header : Items Value
  entries : List (Items Value)

def intOf (items : Items Value) (name : String) : Int :=
  ((items.get? name).bind Value.asInt?).getD 0

def bytesOf (items : Items Value) (name : String) : Bytes :=
  ((items.get? name).bind Value.asBytes?).getD []

def textOf (items : Items Value) (name : String) : Text :=
  match items.get? name with
  | some (.text t) => t
  | _ => []

def checkHeader (header : Items Value) : Except Fault Unit :=
  let found := bytesOf header "signature"
  let entrySize := intOf header "part_entry_size"
  if found ≠ signature then
    .error (.layout .unpack [.ofString "GPTHeader", .ofString "signature"] (.wrongSignature found))
  else if entrySize < entryLayout.size then
    .error (.layout .unpack [.ofString "GPTHeader", .ofString "part_entry_size"]
      (.smallEntries entrySize))
  else .ok ()

/-- Reads `count` entries, the first one at the offset and each `stride` after another. -/
def readEntries (s : Stream) (offset stride : Int) : Nat → Logged (List (Items Value)) × Stream
  | 0 => (pure [], s)
  | count + 1 =>
    match entryLayout.unpackFrom (.nested s) (.int offset) with
    | (entry, s) =>
      match entry.result with
      | .error fault => (⟨entry.warnings, .error fault⟩, inner s)
      | .ok items =>
        let (rest, s) := readEntries (inner s) (offset + stride) stride count
        (do return (← ⟨entry.warnings, .ok items⟩) :: (← rest), s)
where
  /-- The stream that another one was put over. -/
  inner : Stream → Stream
    | .nested s => s
    | s => s

def readTable (s : Stream) (sectorSize : Value) : Logged Table × Stream :=
  match headerLayout.unpackFrom (.nested s) sectorSize with
  | (header, s) =>
    let s := readEntries.inner s
    match header.result with
    | .error fault => (⟨header.warnings, .error fault⟩, s)
    | .ok items =>
      match checkHeader items with
      | .error fault => (⟨header.warnings, .error fault⟩, s)
      | .ok () =>
        let start := intOf items "part_entry_start_lba" * (sectorSize.asInt?.getD 0)
        let count := (intOf items "num_part_entries").toNat
        let (entries, s) := readEntries s start (intOf items "part_entry_size") count
        (do return ⟨items, ← entries⟩, s)

def read (s : Stream) (sectorSize : Value) : Logged Table × Stream :=
  let (table, s) := readTable s sectorSize
  (table, s.close)

end ByteLayout.Gpt
