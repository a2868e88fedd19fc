import ByteLayout.Workspace.Source

/-! # Records in a workspace

Records are made by unpacking or from values, and then read, changed and packed again.
What one holder changes in place every other holder of the same object sees.
-/
namespace ByteLayout.Session

structure Held extends StoredRecord where
  id : Nat

def Held.stored (held : Held) : StoredRecord := held.toStoredRecord

def recordOr (kind : PlainFault) (title : String) : Session Held := do
  let h ← named title
  match h, ← cell? h with
  | .cell id, some (.record r) => return ⟨r, id⟩
  | _, _ => fail kind

def recordNamed (title : String) : Session Held := recordOr .noAttribute title

/-- The record of a name that an operation is asked of. A class has its operations only for its
records. -/
def recordFor (title operation : String) : Session Held := do
  let h ← named title
  match h, ← cell? h with
  | .cell id, some (.record r) => return ⟨r, id⟩
  | _, some (.recordClass cls _) =>
    fail (if (cls.attribute? operation).isSome then .wrongType else .noAttribute)
  | _, _ => throw ((← value h).callFault operation)

def openRecord (held : Held) : Session (Record Handle × Target) := do
  let target ← layoutAt held.layoutId
  return (⟨held.cls, target.layout, held.items, held.extras⟩, target)

def storeRecord (record : Record Handle) (layoutId : Nat) : Session Handle := do
  return .cell (← allocate (.record ⟨record.cls, layoutId, record.items, record.extras⟩))

def checkMaking (cls : RecordClass Handle) : Session Unit := do
  if !cls.hasRecords then fail .wrongType
  if cls.hides "__new__" || cls.hides "__init__" then fail .wrongType

def hatch (target : Target) (items : Items Value) : Session Handle := do
  if target.isOne "_record_class" then fail .wrongType
  checkMaking target.cls
  storeRecord ⟨target.cls, target.layout, ← holdItems items, Items.empty⟩ target.id

def create (title classTitle : String) (layoutTitle? : Option String)
    (entries : List (String × Literal)) : Session Handle := do
  let given? ← layoutTitle?.mapM target
  let _ ← named classTitle
  let items ← realiseItems entries
  let cls ← classNamed classTitle
  checkMaking cls
  let record ← ofResult (Record.create cls (given?.map Target.layout) items)
  let own? ← classLayout? cls
  let h ← storeRecord record ((given?.map Target.id <|> own?).getD 0)
  name title h
  return h

/-! ## Unpacking and packing -/

def unpackWith (target : Target) (bytes : Bytes) (offset : Value) : Session Handle := do
  if target.isOne "unpack" then fail .wrongType
  ofResult (target.layout.checkRange target.size bytes offset)
  if target.isOne "logger" || target.isOne "_fields" then fail .noAttribute
  if target.isOne "_offsets" && !target.layout.slots.isEmpty then fail .wrongType
  let items ← ofLogged (target.layout.unpackAt target.size bytes offset)
  hatch target items

def unpack (title asTitle : String) (spec : SourceSpec) (offset : Literal) : Session Handle := do
  let callee ← callee title "unpack"
  let source ← source spec
  let offset ← valueOf offset
  let target ← calledLayout callee
  if target.isOne "unpack" then fail .wrongType
  let bytes ← bytesOf source
  let h ← unpackWith target bytes offset
  name asTitle h
  return h

def unpackFrom (title asTitle : String) (spec : SourceSpec) (offset : Literal) :
    Session (Handle × Option (Bool × Nat)) := do
  let source ← source spec
  let callee ← callee title "unpack_from"
  let offset ← valueOf offset
  let target ← calledLayout callee
  if target.isOne "unpack_from" then fail .wrongType
  let cell ← openStream source
  let h ← match ← file? cell.base, target.ones with
    | some (id, file), [] => do
      hatch target (← ofLogged (← withFile cell id file (target.layout.unpackFrom · offset)))
    | _, _ => do
      let content ← readOnce cell offset target.size
      if target.isOne "unpack" then fail .wrongType
      match content with
      | .octets bytes => unpackWith target bytes (.int 0)
      | .characters _ => throw (.layout .unpack [] (.noBuffer "str"))
  name asTitle h
  return (h, ← openState? source)

/-- Packs values with a layout as it now is. There has to be memory for a buffer before anything is
packed into it. -/
def packWith (target : Target) (items : Items Value) : Session Bytes := do
  let layout := target.layout
  if target.isOne "pack" || target.isOne "_fields" then fail .wrongType
  if (layout.missing items.get?).isEmpty && target.size < Value.lengthLimit then
    if (← get).machine.memory ≤ target.size then fail .noMemory
    if !layout.slots.isEmpty then
      if target.isOne "_offsets" then fail .wrongType
      if target.isOne "logger" then fail .noAttribute
  ofResult (layout.packWithin target.size items.get?)

def pack (title : String) (entries : List (String × Literal)) : Session Bytes := do
  let items ← valuesOf (← realiseItems entries)
  let target ← calledLayout (← callee title "pack")
  packWith target items

def packRecord (target : Target) (r : StoredRecord) : Session Bytes := do
  let items ← valuesOf r.items
  if let slot :: _ := target.layout.slots then
    if r.cls.hides "__contains__" then fail .wrongType
    if r.cls.hides "__getitem__" && (target.layout.missing items.get?).isEmpty then
      throw (.layout .pack [target.layout.name, .ofString slot.name] .unworded)
  packWith target items

/-- Packs what a name stands for. Without any fields nothing is asked of it. -/
def packNamed (title valuesTitle : String) : Session Bytes := do
  let h ← named valuesTitle
  let target ← calledLayout (← callee title "pack")
  match ← cell? h with
  | some (.record r) => packRecord target r
  | _ =>
    if !target.layout.slots.isEmpty then fail .wrongType
    packWith target Items.empty

/-- Asks for an operation of a record, which an attribute of the same name hides. -/
def needOperation (held : Held) (operation : String) : Session Unit := do
  if (held.extras.get? operation).isSome then fail .wrongType
  match held.cls.attribute? operation with
  | some .operation => return
  | some _ => fail .wrongType
  | none =>
    if held.items.contains operation then fail .wrongType
    throw (.plain .noAttribute (.noSuchAttribute held.cls.name operation))

/-- Asks for what every record does by itself, which only its class can hide. -/
def needOwn (held : Held) (operation : String) : Session Unit := do
  if held.cls.hides operation then fail .wrongType

def toBuffer (title : String) : Session Bytes := do
  let held ← recordFor title "to_buffer"
  needOperation held "to_buffer"
  packRecord (← layoutAt held.layoutId) held.stored

/-! ## Items and attributes -/

/-- The value of a name as it is told. A record needs its layout for it. -/
def shown (title : String) : Session Value := do
  let h ← named title
  if let some (.record r) ← cell? h then
    let _ ← layoutAt r.layoutId
  answer h

def written (title : String) : Session Value := do
  let h ← named title
  if let .cell id := h then
    if let some (.record r) ← cell? h then
      if r.cls.hides "__repr__" || r.cls.hides "__str__" then fail .wrongType
      needOperation ⟨r, id⟩ "items"
  shown title

def itemOf (held : Held) (key : String) : Session Handle := do
  needOwn held "__getitem__"
  match held.items.get? key with
  | some h => return h
  | none => fail .noKey

def itemNamed (title key : String) : Session Handle := do
  let h ← named title
  match h, ← cell? h with
  | .cell id, some (.record r) => itemOf ⟨r, id⟩ key
  | _, _ => memberOf h key

def getItem (title key : String) : Session Value := do answer (← itemNamed title key)

def putHandle (held : Held) (key : String) (h : Handle) : Session Unit := do
  needOwn held "__setitem__"
  store held.id (.record { held.stored with items := held.items.insert key h })

def setItem (title key : String) (literal : Literal) : Session Unit := do
  let _ ← named title
  let h ← realise literal
  putHandle (← recordOr .wrongType title) key h

def eraseItem (title key : String) : Session Unit := do
  let held ← recordOr .wrongType title
  needOwn held "__delitem__"
  if !held.items.contains key then fail .noKey
  store held.id (.record { held.stored with items := held.items.erase key })

inductive Answer where
  | operation
  | value (v : Value)

def objectAttribute (h : Handle) (key : String) : Session Answer := do
  if let some found ← attributeOf? h key then return .value (← answer found)
  match h, ← cell? h with
  | .cell id, some (.layout _) => do
    let target ← layoutAt id
    match key with
    | "_name" => return .value target.layout.name
    | "size" | "_size" => return .value (.int target.size)
    | "_little_endian" => return .value target.flag
    | "pack" | "unpack" | "unpack_from" => return .operation
    | _ => fail .noAttribute
  | _, some (.recordClass cls id?) =>
    match cls.attribute? key, id? with
    | some .operation, _ => return .operation
    | some .classLayout, some id => return .value (← answer (.cell id))
    | some .classLayout, none | some .nothing, _ => return .value .none
    | some (.text t), _ => return .value (.ofString t)
    | _, _ => fail .noAttribute
  | _, some (.field field) =>
    match key with
    | "size" => return .value (← ofResult field.size)
    | "decode" | "encode" | "copy" => return .operation
    | _ => fail .noAttribute
  | _, _ => fail .noAttribute

def asksItems (held : Held) (key : String) : Bool :=
  (held.extras.get? key).isNone && (held.cls.attribute? key matches none | some .slot)

def recordAttribute (held : Held) (key : String) : Session Answer := do
  needOwn held "__getattribute__"
  if asksItems held key then
    needOwn held "__getattr__"
    needOwn held "__getitem__"
    if held.cls.hides "__class__" && !held.items.contains key then fail .noAttribute
  match ← ofResult (held.cls.lookup held.extras held.items key) with
  | .layout => return .value (← answer (.cell held.layoutId))
  | .classLayout =>
    match ← classLayout? held.cls with
    | some id => return .value (← answer (.cell id))
    | none => return .value .none
  | .operation => return .operation
  | .own =>
    let entries := (← valuesOf held.extras).entries
    return .value (.table (entries.map fun entry => (.ofString entry.1, entry.2)))
  | .names names => return .value (.list (names.map .ofString))
  | .nothing | .slot => return .value .none
  | .text t => return .value (.ofString t)
  | .value h => return .value (← answer h)

def getAttribute (title key : String) : Session Answer := do
  let h ← named title
  match h, ← cell? h with
  | .cell id, some (.record r) => recordAttribute ⟨r, id⟩ key
  | _, _ => objectAttribute h key

def cellOf (h : Handle) : Session Nat := do
  match h with
  | .cell id => return id
  | .atom v => allocate (.constant v)

/-- Gives an attribute of a record an object. Any object is taken for its layout. -/
def setAttribute (title key : String) (literal : Literal) : Session Unit := do
  let _ ← named title
  let h ← realise literal
  let held ← recordNamed title
  needOwn held "__setattr__"
  let (record, target) ← openRecord held
  if target.isOne "_fields" then fail .wrongType
  match ← ofResult (record.partOf key) with
  | .layout => store held.id (.record { held.stored with layoutId := ← cellOf h })
  | part => do
    if part matches .item then needOwn held "__setitem__"
    let record ← ofResult (record.assign (← get).views key h)
    store held.id (.record ⟨record.cls, held.layoutId, record.items, record.extras⟩)

/-! ## Changing in place -/

def bitsOf (v : Value) : Except Fault Bits :=
  match v.asInt?, v with
  | some n, _ =>
    if n = 0 then .ok [false]
    else if n = 1 ∨ n = -1 then .ok [true]
    else .error (.bare .badValue)
  | none, .none => .error (.bare .wrongType)
  | none, v => v.copiedBits

def indexIn (length : Nat) (i : Int) : Except Fault Nat :=
  match index? length i with
  | some n => .ok n
  | none => .error (.bare .outOfRange)

def replaceBit (row : Bits) (i : Int) (v : Value) : Except Fault Bits := do
  let bits ← bitsOf v
  let i ← indexIn row.length i
  return row.take i ++ bits ++ row.drop (i + 1)

def indices (v : Value) : Except Fault (List Value) :=
  match v with
  | .table _ | .record .. => .error (.bare .wrongType)
  | v => v.items

/-- Puts bits at indices one after the other. What precedes a wrong index is done. -/
def scatter (row : Bits) : List (Value × Bool) → Bits × Except Fault Unit
  | [] => (row, .ok ())
  | (index, bit) :: rest =>
    match index.asInt? with
    | none => (row, .error (.bare .wrongType))
    | some i =>
      match indexIn row.length i with
      | .error fault => (row, .error fault)
      | .ok i => scatter (row.set i bit) rest

/-- Changes a row of bits at an index, or at as many indices as the bits that a value gives. -/
def pokeBits (row : Bits) (index v : Value) : Bits × Except Fault Unit :=
  match index.asInt?, v.asInt? with
  | none, some _ => (row, .error (index.callFault "step"))
  | none, none =>
    match bitsOf v, indices index with
    | .error fault, _ | .ok _, .error fault => (row, .error fault)
    | .ok bits, .ok places =>
      if places.length = bits.length then scatter row (places.zip bits)
      else (row, .error (.bare .badValue))
  | some i, _ =>
    match replaceBit row i v with
    | .ok row => (row, .ok ())
    | .error fault => (row, .error fault)

def pokeHandle (h : Handle) (index : Literal) (newItem : Handle) : Session Unit := do
  let key ← realise index
  let i ← value key
  match h, ← cell? h with
  | .cell id, some (.buffer b) =>
    let i ← intOf i
    store id (.buffer (← ofResult (Codec.setByte b i (← value newItem))))
  | .cell id, some (.bitBuffer row) =>
    let (row, done) := pokeBits row i (← value newItem)
    store id (.bitBuffer row)
    ofResult done
  | .cell id, some (.list items) =>
    let i ← intOf i
    store id (.list (items.set (← ofResult (indexIn items.length i)) newItem))
  | .cell id, some (.table entries) => store id (.table (← addEntry entries key newItem))
  | .cell id, some (.record r) =>
    match i with
    | .text t =>
      match t.toString? with
      | some name => putHandle ⟨r, id⟩ name newItem
      | none => fail .wrongType
    | _ => fail .wrongType
  | _, _ => fail .wrongType
where
  intOf (v : Value) : Session Int :=
    match v.asInt? with
    | some n => return n
    | none => fail .wrongType

def poke (title key : String) (index v : Literal) : Session Unit := do
  let _ ← named title
  let newItem ← realise v
  pokeHandle (← itemNamed title key) index newItem

def link (title key fromTitle fromKey : String) : Session Unit := do
  let h ← itemNamed fromTitle fromKey
  putHandle (← recordOr .wrongType title) key h

def nameBuffer (title : String) (bytes : Bytes) : Session Unit := do
  name title (.cell (← allocate (.buffer bytes)))

def pokeBuffer (title : String) (index v : Literal) : Session Bytes := do
  let h ← named title
  let newItem ← realise v
  pokeHandle h index newItem
  let v ← value h
  match v.asBytes? with
  | some bytes => return bytes
  | none => throw (v.callFault "hex")

end ByteLayout.Session
