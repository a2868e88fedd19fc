import ByteLayout.Stream.Lines
import ByteLayout.Stream.Unpack
import ByteLayout.Workspace.Declare

/-! # Sources in a workspace

What bytes are read from: a row of bytes, a file of the disk that is opened by its path, a
file that is open already, or another stream. Whatever has parts to read and to seek with is
taken for a file, and everything else is refused by its kind.
-/
namespace ByteLayout

inductive SourceSpec where
  | bytes (bytes : Bytes)
  /-- Bytes seen as items of the letters. -/
  | view (bytes : Bytes) (letters : String)
  /-- Bytes seen in several dimensions. -/
  | grid (bytes : Bytes) (shape? : Option Literal)
  /-- Items of the letters, which a layout reads as bytes and a stream refuses. -/
  | array (bytes : Bytes) (letters : String)
  /-- A path, with what is written there first. -/
  | path (path : Text) (content? : Option Bytes) (kind? : Option String)
  | file (file : File)
  /-- An object that can read or seek, but not both. -/
  | halfFile (kind : String)
  | value (literal : Literal)
  | named (name : String)

inductive Source where
  | row (bytes : Bytes) (row : Row)
  | array (bytes : Bytes) (row : Row)
  /-- A path that is no text. -/
  | path (path : Text) (kind : String)
  | other (kind : String)
  | object (h : Handle)

namespace Session

def writeFile (path : Text) (bytes : Bytes) : Session Unit := do
  let disk ← ofResult ((← get).disk.write path bytes)
  modify fun w => { w with disk }

def source : SourceSpec → Session Source
  | .bytes bytes => return .row bytes (.bytes bytes)
  | .view bytes letters => do
    match ItemKind.ofView? letters with
    | none => fail .badValue
    | some kind =>
      if bytes.length % kind.width ≠ 0 then fail .wrongType
      return .row bytes (.view kind bytes)
  | .grid bytes shape? => do
    match ← shape?.mapM valueOf with
    | some (.list shape) => return .row bytes (← ofResult (Row.shaped bytes shape))
    | some _ => fail .wrongType
    | none => return .row bytes (← ofResult (Row.shaped bytes [.int 1, .int bytes.length]))
  | .array bytes letters => do
    match ItemKind.ofArray? letters with
    | none => fail .badValue
    | some kind =>
      if bytes.length % kind.width ≠ 0 then fail .badValue
      return .array bytes (.view kind bytes)
  | .path path content? kind? => do
    content?.forM (writeFile path)
    match kind? with
    | some kind => return .path path kind
    | none => return .object (.atom (.text path))
  | .file file => return .object (.cell (← allocate (.file file)))
  | .halfFile kind => return .other kind
  | .value literal => return .object (← realise literal)
  | .named title => return .object (← named title)

def rowOf (source : Source) : Session Row := do
  match source with
  | .row _ row | .array _ row => return row
  | .path _ kind | .other kind => return .value (.thing kind 0)
  | .object h =>
    let v ← value h
    match v.asBytes? with
    | some b => return .bytes b
    | none => return .value v

def bytesOf (source : Source) : Session Bytes := do
  match source with
  | .row bytes _ | .array bytes _ => return bytes
  | .path _ kind | .other kind => refuse kind
  | .object h =>
    let v ← value h
    match v.asBytes? with
    | some b => return b
    | none => refuse v.kind
where
  refuse (kind : String) : Session Bytes := throw (.layout .unpack [] (.noBuffer kind))

/-- A stream as it is kept: whether it owns its file, over how many streams it stands, and
what it reads from. -/
structure StreamCell where
  owned : Bool
  depth : Nat
  base : Handle

def openFile (path : Text) : Session StreamCell := do
  let file ← ofResult ((← get).disk.opened path)
  return ⟨true, 0, .cell (← allocate (.file file))⟩

def openBytes (bytes : Bytes) : Session StreamCell := do
  return ⟨true, 0, .cell (← allocate (.file (.ofBytes bytes)))⟩

def unreadable (kind : String) : Fault := .plain .badValue (.unreadable kind)

/-- How an object of a kind is opened: kinds that have the name of a path or of a row of
bytes are taken for one. -/
def openObject (h : Handle) : Session StreamCell := do
  match ← cell? h with
  | some (.file _) => return ⟨false, 0, h⟩
  | some (.stream _ depth base) => return ⟨false, depth + 1, base⟩
  | _ =>
    match ← value h with
    | .bytes b | .buffer b => openBytes b
    | .text t => openFile t
    | v =>
      if ["PosixPath", "WindowsPath"].contains v.kind then openFile v.plain
      else if ["str", "bytes", "bytearray", "memoryview"].contains v.kind then fail .wrongType
      else if (← attributeOf? h "read").isSome && (← attributeOf? h "seek").isSome then
        return ⟨false, 0, h⟩
      else throw (unreadable v.kind)

def openStream (source : Source) : Session StreamCell := do
  match source with
  | .row bytes _ => openBytes bytes
  | .path path _ => openFile path
  | .array .. => throw (unreadable "array")
  | .other kind => throw (unreadable kind)
  | .object h => openObject h

def file? (base : Handle) : Session (Option (Nat × File)) := do
  match base, ← cell? base with
  | .cell id, some (.file file) => return some (id, file)
  | _, _ => return none

def callAttribute {α : Type} (h : Handle) (key : String) : Session α := do
  if (← attributeOf? h key).isSome then fail .wrongType
  match ← cell? h with
  | some (.record r) => throw (.plain .noAttribute (.noSuchAttribute r.cls.name key))
  | _ => fail .noAttribute

def seekObject {α : Type} (h : Handle) (offset : Value) : Session α := do
  let _ ← ofResult (Stream.position offset)
  callAttribute h "seek"

def readObject {α : Type} (h : Handle) (offset : Value) : Session α := do
  if offset.asInt?.any (· < 0) then throw (Stream.negativeOffset offset)
  seekObject h offset

/-- Does something with a stream over a file and keeps the file as it is left. -/
def withFile {α : Type} (cell : StreamCell) (id : Nat) (file : File)
    (act : Stream → α × Stream) : Session α := do
  let bottom := Stream.direct file (cell.owned && cell.depth == 0)
  let (result, left) := act (Nat.repeat .nested cell.depth bottom)
  store id (.file left.file)
  return result

/-- Exactly `size` bytes from an offset, after which the stream is left. -/
def readOnce (cell : StreamCell) (offset : Value) (size : Nat) : Session Content := do
  match ← file? cell.base with
  | some (id, file) =>
    let content ← withFile cell id file fun s =>
      let (content, s) := s.readAt offset (.int size)
      (content, s.close)
    ofResult content
  | none => readObject cell.base offset

def openState? (source : Source) : Session (Option (Bool × Nat)) := do
  match source with
  | .object h =>
    let base ← match ← cell? h with
      | some (.stream _ _ base) => pure base
      | _ => pure h
    match ← file? base with
    | some (_, file) => return some (!file.isOpen, ← ofResult file.tell)
    | none => return none
  | _ => return none

def tell (cell : StreamCell) : Session Nat := do
  match ← file? cell.base with
  | some (_, file) => ofResult file.tell
  | none => callAttribute cell.base "tell"

def nameStream (title : String) (spec : SourceSpec) : Session (Bool × Nat) := do
  let cell ← openStream (← source spec)
  name title (.cell (← allocate (.stream cell.owned cell.depth cell.base)))
  return (cell.owned, ← tell cell)

def streamNamed (title : String) : Session StreamCell := do
  match ← cell? (← named title) with
  | some (.stream owned depth base) => return ⟨owned, depth, base⟩
  | _ => fail .noAttribute

inductive StreamAnswer where
  | value (v : Value)
  | left (isOpen : Bool)

def streamOperations : List String := ["read_at", "seek", "tell", "read", "close"]

def streamParts : List String := ["obj", "_owned"]

def fileDo (cell : StreamCell) (id : Nat) (file : File) (operation : String)
    (arguments : List Value) : Session StreamAnswer := do
  match operation, arguments with
  | "read_at", [offset, size] =>
    let chunk ← ofResult (← withFile cell id file (·.readAt offset size))
    return .value chunk.toValue
  | "seek", [offset] =>
    ofResult (← withFile cell id file (·.seek offset))
    return .value .none
  | "tell", [] => return .value (.int (← ofResult file.tell))
  | "read", [] =>
    return .value (← ofResult (← withFile cell id file (·.read (.int (-1))))).toValue
  | "read", [size] =>
    return .value (← ofResult (← withFile cell id file (·.read size))).toValue
  | "close", [] =>
    withFile cell id file fun s => ((), s.close)
    return .value .none
  | "exit", _ => return .left (← withFile cell id file fun s => (s.close.file.isOpen, s.close))
  | "closed", _ => return .value (.bool !file.isOpen)
  | "init_fileobj", [] => return .value .none
  | operation, arguments =>
    if streamOperations.contains operation || streamParts.contains operation then fail .wrongType
    match file.operate? operation arguments with
    | none => fail .noAttribute
    | some outcome =>
      let (v, file) ← ofResult outcome
      store id (.file file)
      return .value v

def objectDo (h : Handle) (operation : String) (arguments : List Value) :
    Session StreamAnswer := do
  match operation, arguments with
  | "read_at", [offset, _] => readObject h offset
  | "seek", [offset] => seekObject h offset
  | "close", [] => return .value .none
  | "exit", _ | "closed", _ =>
    match ← attributeOf? h "closed" with
    | some v => return .value (← value v)
    | none => callAttribute h "closed"
  | operation, _ =>
    if ["read_at", "seek", "close"].contains operation then fail .wrongType
    else callAttribute h operation

def streamDo (title operation : String) (literals : List Literal) : Session StreamAnswer := do
  let cell ← streamNamed title
  let arguments ← literals.mapM valueOf
  match ← file? cell.base with
  | some (id, file) => fileDo cell id file operation arguments
  | none => objectDo cell.base operation arguments

end Session

end ByteLayout
