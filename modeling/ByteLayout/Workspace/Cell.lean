import ByteLayout.Gpt.Dump
import ByteLayout.Logged
import ByteLayout.Record
import ByteLayout.Workspace.Disk

/-! # Shared objects

A workspace names values, and values that may be changed in place are shared by whoever
holds them. Each has a cell of its own, and a handle leads to it. Small constants have no
cell: there is only one of each.
-/
namespace ByteLayout

inductive Handle where
  | atom (v : Value)
  | cell (id : Nat)
deriving Inhabited

structure StoredLayout where
  layout : Layout
  cls : RecordClass Handle
  name : Handle
  /-- The inner parts that have been given the value one. -/
  ones : List String

structure StoredRecord where
  cls : RecordClass Handle
  layoutId : Nat
  items : Items Handle
  extras : Items Handle

inductive Cell where
  | constant (v : Value)
  | buffer (bytes : Bytes)
  | bitBuffer (row : Bits)
  | list (items : List Handle)
  | table (entries : List (Handle × Handle))
  | record (r : StoredRecord)
  | layout (l : StoredLayout)
  | recordClass (cls : RecordClass Handle) (layoutId? : Option Nat)
  /-- An enumeration with the objects that are the values of its members. -/
  | enumeration (e : Enumeration) (values : Items Handle)
  | field (field : Field)
  | file (file : File)
  /-- A stream over an object, put over that many other streams. -/
  | stream (owned : Bool) (depth : Nat) (base : Handle)

namespace Cell

def parts : Cell → List Handle
  | list items => items
  | table entries => entries.flatMap fun entry => [entry.1, entry.2]
  | record r => r.items.entries.map Prod.snd
  | _ => []

end Cell

structure Machine where
  space : DiskSpace
  /-- There is memory for buffers of fewer bytes than this. -/
  memory : Nat
  /-- Why nothing can be looked up in an enumeration without members, if it has a fault of its
  own. -/
  hollow? : Option PlainFault

structure Workspace where
  cells : Array Cell
  names : Items Handle
  disk : Disk
  machine : Machine
  warnings : List Warning

/-- What is done in a workspace keeps its effects when it fails. -/
abbrev Session := ExceptT Fault (StateM Workspace)

namespace Workspace

def libraryCells : List Cell :=
  [.recordClass .plain none, .recordClass .base none,
    .recordClass Gpt.headerClass (some 4), .recordClass Gpt.entryClass (some 5),
    .layout ⟨Gpt.headerLayout, Gpt.headerClass, .atom Gpt.headerLayout.name, []⟩,
    .layout ⟨Gpt.entryLayout, Gpt.entryClass, .atom Gpt.entryLayout.name, []⟩]

/-- The cell of a row of a single byte, of which there is one for each byte. -/
def byteCell (b : UInt8) : Nat := libraryCells.length + b.toNat

def firstFree : Nat := libraryCells.length + 256

def initial (machine : Machine) : Workspace where
  cells := (libraryCells ++
    (List.range 256).map fun b => Cell.constant (.bytes [UInt8.ofNat b])).toArray
  names := Items.ofList [("Record", .cell 0), ("Struct", .cell 1), ("GPTHeader", .cell 2),
    ("PartitionEntry", .cell 3)]
  disk := Disk.empty machine.space
  machine := machine
  warnings := []

def cellOf? (w : Workspace) : Handle → Option Cell
  | .atom _ => none
  | .cell id => w.cells[id]?

/-- Whether an object holds itself, or one of those on the way to it. -/
def isCircular (w : Workspace) : Nat → List Nat → Handle → Bool
  | 0, _, _ => true
  | _, _, .atom _ => false
  | depth + 1, path, .cell id =>
    path.contains id ||
      match w.cells[id]? with
      | some cell => cell.parts.any (w.isCircular depth (id :: path))
      | none => false

/-- The value that a handle leads to, unfolded `depth` times; what holds itself is cut. -/
def value (w : Workspace) : Nat → List Nat → Handle → Value
  | 0, _, .atom v => v
  | 0, _, .cell _ => .none
  | depth + 1, path, .atom (.member tag name v) =>
    match w.cells[tag.id]? with
    | some (.enumeration _ values) =>
      match values.get? name with
      | some h => .member tag name (w.value depth path h)
      | none => .member tag name v
    | _ => .member tag name v
  | _ + 1, _, .atom v => v
  | depth + 1, path, .cell id =>
    let inner := w.value depth (id :: path)
    if path.contains id then .none
    else
      match w.cells[id]? with
      | none => .none
      | some (.constant v) => v
      | some (.buffer b) => .buffer b
      | some (.bitBuffer row) => .bitBuffer row
      | some (.list items) => .list (items.map inner)
      | some (.table entries) =>
        .table (entries.map fun entry => (inner entry.1, inner entry.2))
      | some (.record r) =>
        let layoutName := match w.cells[r.layoutId]? with
          | some (.layout l) => inner l.name
          | _ => .none
        .record r.cls.name layoutName (r.items.entries.map fun entry => (entry.1, inner entry.2))
          r.cls.index?
      | some (.layout l) =>
        .layout id (inner l.name) (if l.ones.contains "_size" then 1 else l.layout.size)
      | some (.recordClass ..) => .thing "MetaStruct" id
      | some (.enumeration e values) =>
        .members e.tag (e.members.map fun member =>
          .member e.tag member.1 (((values.get? member.1).map inner).getD member.2))
      | some (.field field) => .thing field.name id
      | some (.file file) => .thing file.kindName id
      | some (.stream ..) => .thing "Stream" id

/-- What comes of calling an object with a value. An enumeration looks the value up, and nothing
else can be called to give a member. -/
def call (w : Workspace) (object v : Value) : Except Fault Value :=
  match object with
  | .members tag _ =>
    match w.cells[tag.id]? with
    | some (.enumeration e _) => e.lookup v
    | _ => .error (.bare .wrongType)
  | _ => .error (.bare .wrongType)

def host (w : Workspace) : Enumeration.Host := ⟨w.call, w.machine.hollow?⟩

def views (w : Workspace) : Record.Views Handle where
  layout? h :=
    match w.cellOf? h with
    | some (.layout l) => some l.layout
    | _ => none
  cls? h :=
    match w.cellOf? h with
    | some (.recordClass cls _) => some cls
    | _ => none
  items? h :=
    match w.cellOf? h with
    | some (.table entries) => some (Items.ofList (entries.filterMap named?))
    | _ => none
where
  /-- An entry that has a text for a key. -/
  named? (entry : Handle × Handle) : Option (String × Handle) :=
    match w.value (w.cells.size + 1) [] entry.1 with
    | .text t => t.toString?.map fun name => (name, entry.2)
    | _ => none

end Workspace

namespace Session
variable {α : Type}

def ofResult (result : Except Fault α) : Session α := MonadExcept.ofExcept result

def ofLogged (logged : Logged α) : Session α := do
  modify fun w => { w with warnings := w.warnings ++ logged.warnings }
  ofResult logged.result

def fail (kind : PlainFault) : Session α := throw (.bare kind)

def allocate (cell : Cell) : Session Nat := do
  let w ← get
  set { w with cells := w.cells.push cell }
  return w.cells.size

def store (id : Nat) (cell : Cell) : Session Unit :=
  modify fun w => { w with cells := w.cells.setIfInBounds id cell }

def cell? (h : Handle) : Session (Option Cell) := do return (← get).cellOf? h

def named (name : String) : Session Handle := do
  match (← get).names.get? name with
  | some h => return h
  | none => throw (.plain .noVariable (.said (Text.of name)))

def name (name : String) (h : Handle) : Session Unit :=
  modify fun w => { w with names := w.names.insert name h }

def value (h : Handle) : Session Value := do
  let w ← get
  return w.value (w.cells.size + 1) [] h

def answer (h : Handle) : Session Value := do
  let w ← get
  if w.isCircular (w.cells.size + 1) [] h then fail (.foreign "RecursionError" false)
  value h

def isSingle : Value → Bool
  | .none | .bool _ | .member .. | .indexed .. | .thing .. | .record .. | .layout ..
  | .members .. => true
  | .int n => -5 ≤ n && n ≤ 256
  | .text [] | .bytes [] => true
  | .text [c] => c < 256
  | _ => false

mutual

def hold : Value → Session Handle
  | .buffer b => .cell <$> allocate (.buffer b)
  | .bitBuffer row => .cell <$> allocate (.bitBuffer row)
  | .list items => do
    let held ← holdAll items
    .cell <$> allocate (.list held)
  | .table entries => do
    let held ← holdEntries entries
    .cell <$> allocate (.table held)
  | .bytes [b] => pure (.cell (Workspace.byteCell b))
  | v => if isSingle v then pure (.atom v) else .cell <$> allocate (.constant v)

def holdAll : List Value → Session (List Handle)
  | [] => pure []
  | v :: rest => do
    let h ← hold v
    let more ← holdAll rest
    return h :: more

def holdEntries : List (Value × Value) → Session (List (Handle × Handle))
  | [] => pure []
  | (key, v) :: rest => do
    let k ← hold key
    let h ← hold v
    let more ← holdEntries rest
    return (k, h) :: more

end

def holdItems (items : Items Value) : Session (Items Handle) := do
  let held ← items.entries.mapM fun (name, v) => do return (name, ← hold v)
  return Items.ofList held

def valuesOf (items : Items Handle) : Session (Items Value) := do
  let w ← get
  return items.map (w.value (w.cells.size + 1) [])

end Session

inductive Literal where
  | value (v : Value)
  | list (items : List Literal)
  | table (entries : List (Literal × Literal))
  | member (enumeration name : String)
  | named (name : String)
deriving Inhabited

namespace Session

def memberOf (h : Handle) (name : String) : Session Handle := do
  let found? ← match ← cell? h with
    | some (.enumeration e _) => pure ((e.member? name).map .atom)
    | some (.record r) => pure (r.items.get? name)
    | _ => fail .wrongType
  match found? with
  | some found => return found
  | none => fail .noKey

/-- Adds an entry; a key equal to an earlier one takes its place. -/
def putEntry (w : Workspace) (key v : Handle) :
    List (Handle × Handle) → List (Handle × Handle)
  | [] => [(key, v)]
  | entry :: rest =>
    let valueOf := w.value (w.cells.size + 1) []
    if Value.sameKey (valueOf entry.1) (valueOf key) then (entry.1, v) :: rest
    else entry :: putEntry w key v rest

def addEntry (entries : List (Handle × Handle)) (key v : Handle) :
    Session (List (Handle × Handle)) := do
  if !(← value key).isKey then fail .wrongType
  return putEntry (← get) key v entries

def isWritable : Value → Bool
  | .int n => Text.isWritable n
  | _ => true

mutual

def realise : Literal → Session Handle
  | .value v => if isWritable v then hold v else fail .badValue
  | .list items => do
    let held ← realiseAll items
    .cell <$> allocate (.list held)
  | .table entries => do
    let held ← realiseEntries [] entries
    .cell <$> allocate (.table held)
  | .member enumeration name => do memberOf (← named enumeration) name
  | .named name => named name

def realiseAll : List Literal → Session (List Handle)
  | [] => pure []
  | item :: rest => do
    let h ← realise item
    let more ← realiseAll rest
    return h :: more

def realiseEntries (sofar : List (Handle × Handle)) :
    List (Literal × Literal) → Session (List (Handle × Handle))
  | [] => pure sofar
  | (key, v) :: rest => do
    let k ← realise key
    let h ← realise v
    realiseEntries (← addEntry sofar k h) rest

end

def valueOf (literal : Literal) : Session Value := do value (← realise literal)

def realiseItems (entries : List (String × Literal)) : Session (Items Handle) := do
  let held ← entries.mapM fun (name, literal) => do return (name, ← realise literal)
  return Items.ofList held

end Session

end ByteLayout
