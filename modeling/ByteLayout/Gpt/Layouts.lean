import ByteLayout.Field.Encode
import ByteLayout.Record

/-! # The layouts of a partition table

The header and the entries of a GUID partition table, all of whose integers are little
endian. The name of an entry fills its slot to the end and has no terminator of its own.
-/
namespace ByteLayout.Gpt

def nameSize : Nat := 72

def decodeName (row : Row) (offset : Int) (_ : ByteOrder) : Except Fault Value := do
  let raw ← (← row.cut offset (offset + nameSize)).content
  return .text (Utf16.decode .little raw).beforeZero

def encodeName (buffer : Bytes) (offset : Int) (v : Value) (_ : ByteOrder) : Except Fault Bytes :=
  match v with
  | .text t =>
    match (Encoding.utf16 (some .little)).encode? t with
    | some raw => .ok (splice buffer offset (offset + nameSize) (fitted nameSize raw))
    | none => .error (.bare .unencodable)
  | v => .error (.unplaced (.wantsName v.kind))

def nameCodec : Codec where
  decode := decodeName
  encode := encodeName

def headerLayout : Layout where
  name := .ofString "GPTHeader"
  order := .little
  slots :=
    [⟨"signature", .bytes (.int 8), 8, rfl⟩,
      ⟨"revision", .uint32 none, 4, rfl⟩,
      ⟨"header_size", .uint32 none, 4, rfl⟩,
      ⟨"crc32", .uint32 none, 4, rfl⟩,
      ⟨"reserved", .uint32 none, 4, rfl⟩,
      ⟨"current_lba", .uint64 none, 8, rfl⟩,
      ⟨"backup_lba", .uint64 none, 8, rfl⟩,
      ⟨"first_usable_lba", .uint64 none, 8, rfl⟩,
      ⟨"last_usable_lba", .uint64 none, 8, rfl⟩,
      ⟨"disk_guid", .bytes (.int 16), 16, rfl⟩,
      ⟨"part_entry_start_lba", .uint64 none, 8, rfl⟩,
      ⟨"num_part_entries", .uint32 none, 4, rfl⟩,
      ⟨"part_entry_size", .uint32 none, 4, rfl⟩,
      ⟨"crc32_part_entries", .uint32 none, 4, rfl⟩]
  distinct := by decide

def entryLayout : Layout where
  name := .ofString "PartitionEntry"
  order := .little
  slots :=
    [⟨"partition_type_guid", .bytes (.int 16), 16, rfl⟩,
      ⟨"unique_guid", .bytes (.int 16), 16, rfl⟩,
      ⟨"first_lba", .uint64 none, 8, rfl⟩,
      ⟨"last_lba", .uint64 none, 8, rfl⟩,
      ⟨"attributes", .bits (.int 8), 8, rfl⟩,
      ⟨"name", .custom (.int nameSize) nameCodec, 72, rfl⟩]
  distinct := by decide

theorem size_headerLayout : headerLayout.size = 92 := rfl

theorem size_entryLayout : entryLayout.size = 128 := rfl

def headerClass {α : Type} : RecordClass α where
  self :=
    { id := 2, name := "GPTHeader", attributes := Items.empty, operations := [], slots? := none }
  ancestors := RecordClass.base.lineage
  layout? := some headerLayout

def entryClass {α : Type} : RecordClass α where
  self :=
    { id := 3, name := "PartitionEntry", attributes := Items.empty,
      operations := ["is_used", "has_attribute"], slots? := none,
      about? := some "An all zeros partition type GUID marks an unused entry." }
  ancestors := RecordClass.base.lineage
  layout? := some entryLayout

def isUsed (items : Items Value) : Except Fault Bool :=
  match items.get? "partition_type_guid" with
  | some v => v.items.map (·.any Value.truthy)
  | none => .error (.bare .noKey)

def attributesLength (attributes : Value) : Except Fault Value :=
  match attributes with
  | .bits row | .bitBuffer row => .ok (.int row.length)
  | .record className _ entries _ =>
    match entries.lookup "len" with
    | some v => .ok v
    | none => .error (.plain .noAttribute (.noSuchAttribute className "len"))
  | _ => .error (.bare .noAttribute)

/-- The attribute of a number, counted from the least significant bit of a row that starts
with the most significant one. The index may be negative and then counts from the end. -/
def hasAttribute (items : Items Value) (bit : Value) : Except Fault Bool :=
  match items.get? "attributes" with
  | none => .error (.bare .noKey)
  | some attributes => do
    let length ← attributesLength attributes
    match attributes.asBits?, length.asInt?, bit.asInt? with
    | some row, some n, some bit =>
      match item? row (n - 1 - bit) with
      | some b => .ok b
      | none => .error (.bare .outOfRange)
    | none, _, _ =>
      if length.number?.isSome && bit.number?.isSome then .error (.bare .noKey)
      else .error (.bare .wrongType)
    | _, _, _ => .error (.bare .wrongType)

end ByteLayout.Gpt
