import ByteLayout.Workspace.Records

/-! # Copies in a workspace

A clone copies the values of declared names as their fields say, a shallow copy shares all
of them, and a record that is written out and read back shares nothing but what has a
place of its own in the library.
-/
namespace ByteLayout.Session

/-- A copy of a value of a field, for which there has to be memory: an integer stands for that many
zeros. -/
def copyValue (field : Field) (v : Value) : Session Value := do
  match field, v.index? with
  | .bytes _, some (.ok n) | .bits _, some (.ok n) =>
    if (← get).machine.memory ≤ n && n < Value.lengthLimit then fail .noMemory
  | _, _ => pure ()
  ofResult (field.copy v)

/-- Copies the object of a declared name. The items of a copied list are shared. -/
def copyHandle (field : Field) (h : Handle) : Session Handle := do
  if field.sharesCopies then return h
  let copied ← copyValue field (← value h)
  match copied, ← cell? h with
  | .list items, some (.list held) =>
    if items.length = held.length then .cell <$> allocate (.list held) else hold copied
  | _, _ => hold copied

def clone (held : Held) : Session Handle := do
  needOperation held "clone"
  needOperation held "items"
  let (record, target) ← openRecord held
  if target.isOne "_fields" && !held.items.entries.isEmpty then fail .wrongType
  let copied ← record.cloneWith copyHandle
  needOwn held "__class__"
  checkMaking held.cls
  storeRecord copied held.layoutId

/-- Whether an object is copied by writing it out and reading it back, or part by part. -/
inductive CopyRule where
  | written
  | stepwise
deriving DecidableEq

/-- What has no place of its own in the library cannot be written out. -/
def unwritable {α : Type} : Session α := fail (.foreign "PicklingError" false)

def isWrittenOut : Value → Bool
  | .int _ | .float _ => true
  | _ => false

def isWritableField : Field → Bool
  | .number _ _ members => members.isNone
  | .labelled .. => false
  | field =>
    match field.declared with
    | .member .. => false
    | _ => true

abbrev Done := List (Nat × Nat)

def isLibraryClass (cls : RecordClass Handle) : Bool := cls.self.id < Workspace.firstFree

def checkCopying (rule : CopyRule) (target : Target) : Session Unit := do
  if ["__reduce__", "__reduce_ex__"].any target.isOne then fail .wrongType
  if rule = .stepwise && target.isOne "__deepcopy__" then fail .wrongType

/-- Copies an object with all it leads to, each object once unless it is a number. -/
def deepCopy (rule : CopyRule) (done : Done) : Nat → Handle → Session (Handle × Done)
  | _, .atom (.member tag name v) => do
    if rule = .written then unwritable
    return (.atom (.member tag name v), done)
  | _, .atom v => return (.atom v, done)
  | 0, .cell _ => fail (.foreign "RecursionError" false)
  | depth + 1, .cell id => do
    match done.lookup id with
    | some copy => return (.cell copy, done)
    | none =>
      match (← get).cells[id]? with
      | some (.list items) =>
        let copy ← allocate (.list [])
        let (items, done) ← deepCopyAll depth ((id, copy) :: done) items
        store copy (.list items)
        return (.cell copy, done)
      | some (.table entries) =>
        let copy ← allocate (.table [])
        let (keys, done) ← deepCopyAll depth ((id, copy) :: done) (entries.map Prod.fst)
        let (values, done) ← deepCopyAll depth done (entries.map Prod.snd)
        store copy (.table (keys.zip values))
        return (.cell copy, done)
      | some (.record r) =>
        if rule = .written && !isLibraryClass r.cls then unwritable
        let (handles, done) ← deepCopyAll depth done (r.items.entries.map Prod.snd)
        let (layout, done) ← deepCopy rule done depth (.cell r.layoutId)
        if let some copy := done.lookup id then return (.cell copy, done)
        let items := Items.ofList ((r.items.entries.map Prod.fst).zip handles)
        let copy ← allocate (.record ⟨r.cls, ← cellOf layout, items, Items.empty⟩)
        return (.cell copy, (id, copy) :: done)
      | some (.layout l) =>
        let target ← layoutAt id
        checkCopying rule target
        if ← isOwnLayout target then
          if rule = .written && !isLibraryClass l.cls then unwritable
          return (.cell id, done)
        if target.isOne "_fields" then fail .wrongType
        if rule = .written then
          if !isLibraryClass l.cls then unwritable
          if !l.layout.slots.all fun slot => isWritableField slot.field then unwritable
        let (name, done) ← deepCopy rule done depth l.name
        let ones := l.ones.filter (· == "_record_class")
        let copy ← allocate (.layout { l with name, ones })
        return (.cell copy, (id, copy) :: done)
      | some (.recordClass cls _) =>
        if rule = .written && !isLibraryClass cls then unwritable
        return (.cell id, done)
      | some (.enumeration ..) =>
        if rule = .written then unwritable
        return (.cell id, done)
      | some (.constant v) =>
        if rule = .stepwise then return (.cell id, done)
        let copy ← allocate (.constant v)
        return (.cell copy, if isWrittenOut v then done else (id, copy) :: done)
      | some (.stream _ _ base) =>
        if (← file? base).any (·.2.isOnDisk) then fail .wrongType
        fail (.foreign "RecursionError" false)
      | some cell =>
        let copy ← allocate cell
        return (.cell copy, (id, copy) :: done)
      | none => return (.cell id, done)
where
  deepCopyAll (depth : Nat) (done : Done) : List Handle → Session (List Handle × Done)
    | [] => return ([], done)
    | h :: rest => do
      let (copy, done) ← deepCopy rule done depth h
      let (copies, done) ← deepCopyAll depth done rest
      return (copy :: copies, done)

def deepCopyOf (rule : CopyRule) (id : Nat) : Session Handle := do
  Prod.fst <$> deepCopy rule [] ((← get).cells.size + 1) (.cell id)

def reread (held : Held) : Session Handle := do
  let isHidden (operation : String) : Bool :=
    (held.extras.get? operation).isSome || held.cls.hides operation
  if isHidden "__reduce__" || isHidden "__reduce_ex__" then fail .wrongType
  checkMaking held.cls
  deepCopyOf .written held.id

inductive CopyMode where
  | cloned
  | deep
  | shallow
  | reread

def duplicateRecord (held : Held) (mode : CopyMode) : Session Handle := do
  match mode with
  | .cloned => clone held
  | .deep => do
    needOperation held "__deepcopy__"
    clone held
  | .shallow => do
    needOwn held "__copy__"
    needOwn held "__class__"
    checkMaking held.cls
    .cell <$> allocate (.record { held.stored with extras := Items.empty })
  | .reread => reread held

/-- Another object for whatever a name stands for. Only a record can be cloned. -/
def duplicate (title asTitle : String) (mode : CopyMode) : Session Unit := do
  let h ← named title
  let copy ← match h, ← cell? h, mode with
    | .cell id, some (.record r), mode => duplicateRecord ⟨r, id⟩ mode
    | _, _, .cloned => do
      let held ← recordFor title "clone"
      clone held
    | .cell id, _, .reread => deepCopyOf .written id
    | .cell id, _, _ => deepCopyOf .stepwise id
    | .atom v, _, _ => pure (.atom v)
  name asTitle copy

/-- Another object for a layout, unless it belongs to its class. -/
def duplicateLayout (title copyTitle : String) (rule : CopyRule) : Session (Bool × Target) := do
  let old ← target title
  let id ← cellOf (← deepCopyOf rule old.id)
  name copyTitle (.cell id)
  let copy ← layoutAt id
  checkTold copy
  return (id == old.id, copy)

end ByteLayout.Session
