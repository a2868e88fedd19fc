import ByteLayout.Field.Codecs
import ByteLayout.Text.Identifier
import ByteLayout.Workspace.Cell

/-! # Declaring in a workspace

Enumerations, fields, layouts and classes are declared under names. Each declaration makes
a new object, and one that fails leaves what had the name before.
-/
namespace ByteLayout

inductive FieldSpec where
  | blank (size : Literal)
  | bytes (size : Literal)
  | bits (size : Literal)
  | text (terminated : Bool) (size encodingName strict : Literal)
  | number (make : Option Enumeration → Except Fault Field) (enumeration? : Option String)
  | custom (size : Literal) (codec : Codec)
  | named (name : String)

/-- A class as it is written down; its options stand apart from its attributes if there are
any. -/
structure ClassSpec where
  name : String
  bases : List String
  attributes : List (String × Literal)
  fields : List (String × FieldSpec)
  options? : Option (List (String × Literal))

/-- What a name stands for in the declaration of a class. A contributor passes for a field
that cannot be added. -/
inductive Declared where
  | field (field : Field)
  | contributor
  | value (h : Handle)

namespace Session

/-! ## Layouts -/

structure Target where
  layout : Layout
  cls : RecordClass Handle
  id : Nat
  /-- The inner parts that have been given the value one. -/
  ones : List String

namespace Target

def isOne (target : Target) (part : String) : Bool := target.ones.contains part

def size (target : Target) : Nat := if target.isOne "_size" then 1 else target.layout.size

def flag (target : Target) : Value :=
  if target.isOne "_little_endian" then .int 1 else .bool target.layout.order.isLittle

def toValue (target : Target) : Value := .layout target.id target.layout.name target.size

end Target

def layoutAt (id : Nat) : Session Target := do
  match (← get).cells[id]? with
  | some (.layout l) => return ⟨{ l.layout with name := ← value l.name }, l.cls, id, l.ones⟩
  | _ => fail .noAttribute

def attributeOf? (h : Handle) (key : String) : Session (Option Handle) := do
  match ← cell? h with
  | some (.layout l) =>
    if l.ones.contains key then return some (.atom (.int 1))
    else if key = "name" then return some l.name
    else if key = "little_endian" then
      return some (.atom (if l.ones.contains "_little_endian" then .int 1
        else .bool l.layout.order.isLittle))
    else return none
  | some (.recordClass cls _) =>
    match cls.attribute? key with
    | some (.value h) => return some h
    | _ => return none
  | some (.enumeration e _) => return (e.member? key).map .atom
  | some (.record r) =>
    match r.extras.get? key, r.cls.attribute? key with
    | some h, _ | none, some (.value h) => return some h
    | none, some .slot | none, none => return r.items.get? key
    | none, some _ => return none
  | some _ => return none
  | none =>
    match h with
    | .atom (.member tag name v) =>
      if key = "name" then return some (.atom (.ofString name))
      if key = "value" then return some (.atom v)
      match (← get).cells[tag.id]? with
      | some (.enumeration e _) => return (e.member? key).map .atom
      | _ => return none
    | _ => return none

/-! ## Enumerations and fields -/

def declareEnumeration (title : String) (integral : Bool) (members : List (String × Literal)) :
    Session (List String) := do
  let held ← members.mapM fun (member, literal) => do return (member, ← realise literal)
  let values ← held.mapM fun (member, h) => do return (member, ← value h)
  let id ← allocate (.list [])
  let e ← ofResult (Enumeration.declare (← get).host ⟨id, title, integral⟩ values)
  let own ← if integral then holdItems (Items.ofList e.members)
    else pure (Items.ofList (held.filter fun entry => e.names.contains entry.1))
  store id (.enumeration e own)
  name title (.cell id)
  return e.names

def labelOf (h : Handle) : Session Label := do
  match ← cell? h with
  | some (.recordClass cls layout?) =>
    let covered := (← get).cells.toList.filterMap fun cell =>
      match cell with
      | .recordClass other _ => if other.isWithin cls.self.id then some other.name else none
      | _ => none
    let isMade := cls.hasRecords && !cls.hides "__new__" && !cls.hides "__init__"
    return .ofClass cls.name covered
      (if isMade && layout?.isNone then .plain .wrongType (.noLayout cls.name)
        else .bare .wrongType)
  | _ =>
    match ← attributeOf? h "__name__" with
    | some name => return .ofObject (.ok (← value name).plain)
    | none => return .ofObject (.error ((← value h).callFault "__name__"))

/-- A number field with an object in the place of an enumeration. One that counts as false
is none. -/
def numberField (make : Option Enumeration → Except Fault Field) (h : Handle) :
    Session Field := do
  match ← cell? h with
  | some (.enumeration e _) => ofResult (make (some e))
  | _ =>
    let plain ← ofResult (make none)
    match (← value h).truthy, plain with
    | true, .number name format _ => return .labelled name format (← labelOf h)
    | _, plain => return plain

def field : FieldSpec → Session Field
  | .blank size => return .blank (← valueOf size)
  | .bytes size => return .bytes (← valueOf size)
  | .bits size => return .bits (← valueOf size)
  | .text terminated size encodingName strict => do
    let encodingName ← valueOf encodingName
    let isStrict := (← valueOf strict).truthy
    let shape : TextShape := ⟨← valueOf size, encodingName, isStrict⟩
    if terminated then ofResult (Field.terminated shape) else return .string shape
  | .number make none => ofResult (make none)
  | .number make (some title) => do numberField make (← named title)
  | .custom size codec => return .custom (← valueOf size) codec
  | .named title => do
    match ← named title, ← cell? (← named title) with
    | _, some (.field field) => return field
    | .cell id, some (.layout _) => do
      let target ← layoutAt id
      return .nested target.toValue target.size
    | _, _ => fail .noAttribute

def storeField (title? : Option String) (field : Field) : Session Unit := do
  match title? with
  | some title => name title (.cell (← allocate (.field field)))
  | none => return

def fields (specs : List (String × FieldSpec)) : Session (Items Field) := do
  let made ← specs.mapM fun (title, spec) => do return (title, ← field spec)
  return Items.ofList made

/-! ## Layouts of names -/

def storeLayout (layout : Layout) (cls : RecordClass Handle) (name : Handle) : Session Target := do
  layoutAt (← allocate (.layout ⟨layout, cls, name, []⟩))

def classLayout? (cls : RecordClass Handle) : Session (Option Nat) := do
  match (← get).cells[cls.self.id]? with
  | some (.recordClass _ id?) => return id?
  | _ => return none

def classNamed (title : String) : Session (RecordClass Handle) := do
  match ← cell? (← named title) with
  | some (.recordClass cls id?) =>
    let layout? ← id?.mapM fun id => Target.layout <$> layoutAt id
    return { cls with layout? }
  | _ => fail .wrongType

inductive Callee where
  | layout (id : Nat)
  | ofClass (cls : RecordClass Handle)
  /-- A value, which cannot be called. -/
  | value

def classCallee (cls : RecordClass Handle) (operation : String) : Session Callee := do
  match cls.attribute? operation with
  | some .operation => return .ofClass cls
  | some (.value _) => return .value
  | _ => fail .noAttribute

def callee (title operation : String) : Session Callee := do
  let h ← named title
  match h, ← cell? h with
  | .cell id, some (.layout _) => return .layout id
  | _, some (.recordClass cls _) => classCallee cls operation
  | _, some (.enumeration e _) =>
    if (e.member? operation).isSome then return .value else fail .noAttribute
  | _, some (.record r) =>
    match r.extras.get? operation, r.cls.attribute? operation, r.items.get? operation with
    | some _, _, _ => return .value
    | none, some _, _ => classCallee r.cls operation
    | none, none, some _ => return .value
    | none, none, none =>
      throw (.plain .noAttribute (.noSuchAttribute r.cls.name operation))
  | _, _ => fail .noAttribute

/-- The layout that a call goes to. A class has to have fields. -/
def calledLayout : Callee → Session Target
  | .layout id => layoutAt id
  | .ofClass cls => do
    if cls.hides "_get_definition" then fail .wrongType
    match ← classLayout? cls with
    | some id => layoutAt id
    | none => throw (.plain .wrongType (.noFields cls.name))
  | .value => fail .wrongType

def target (title : String) : Session Target := do
  calledLayout (← callee title "_get_definition")

def checkTold (target : Target) : Session Unit := do
  if !Text.isWritable target.size then fail .badValue
  if ["_record_class", "_fields", "_offsets"].any target.isOne then fail .noAttribute
  target.layout.slots.forM fun slot => do
    let _ ← ofResult slot.field.shown

/-- Defines a layout of fields under names, some of which may be no texts. Without a class of its
own the names are listed first. -/
def define (title : String) (layoutName : Literal) (specs : List (Option String × FieldSpec))
    (littleEndian : Literal) (class? : Option String) : Session Target := do
  let fields ← fields (specs.map fun (name?, spec) => (name?.getD "", spec))
  let order := ByteOrder.ofFlag (← valueOf littleEndian).truthy
  let held ← realise layoutName
  if class?.isNone && specs.any (·.1.isNone) then fail .wrongType
  let (cls, ones) ← recordClassNamed class?
  let layout ← ofResult (Layout.define (← value held) order fields)
  let target ← layoutAt (← allocate (.layout ⟨layout, cls, held, ones⟩))
  name title (.cell target.id)
  checkTold target
  return target
where
  /-- The class of the records of a layout. Anything else makes none. -/
  recordClassNamed (class? : Option String) : Session (RecordClass Handle × List String) := do
    match class? with
    | none => return (.plain, [])
    | some title =>
      match ← cell? (← named title) with
      | some (.recordClass ..) => return (← classNamed title, [])
      | _ => return (.plain, ["_record_class"])

def reassign (title part : String) : Session Unit := do
  let target ← target title
  if ["fields", "field_offsets", "__class__", "__dict__"].contains part then fail .wrongType
  if ["name", "size", "little_endian", "record_class", "layout", "__weakref__"].contains part then
    fail .noAttribute
  match (← get).cells[target.id]? with
  | some (.layout l) =>
    let l := { l with ones := part :: l.ones }
    let l := if part = "_name" then { l with name := .atom (.int 1) } else l
    let l := if part = "_little_endian" then { l with layout := { l.layout with order := .little } }
      else l
    store target.id (.layout l)
  | _ => return

/-! ## Classes -/

def optionsName : String := "Meta"

def optionsOf (h : Handle) : Session (Option Handle × Option Handle) := do
  return (← attributeOf? h "name", ← attributeOf? h "little_endian")

def slotNames (className : String) (v : Value) : Except Fault (List String) := do
  let names ← match v with
    | .text t => pure [.text t]
    | v => v.items
  names.mapM fun name =>
    match name with
    | .text t =>
      match t.toString? with
      | some s => if t.isIdentifier then pure (ownName s) else throw (.bare .wrongType)
      | none => throw (.bare .wrongType)
    | _ => throw (.bare .wrongType)
where
  /-- A private name has that of the class before it. -/
  ownName (s : String) : String :=
    let cs := s.toList
    let bar := ['_', '_']
    let title := className.toList.dropWhile (· == '_')
    if cs.take 2 == bar && cs.reverse.take 2 != bar && !title.isEmpty then
      String.ofList ('_' :: title ++ cs)
    else s

def slotsFor (className : String) (bases : List (RecordClass Handle))
    (attributes : Items Handle) : Session (Option (List String)) := do
  match attributes.get? "__slots__" with
  | none => return none
  | some h =>
    let names ← ofResult (slotNames className (← value h))
    let isOpen := bases.any RecordClass.isOpen
    if isOpen && names.contains "__dict__" then fail .wrongType
    if names.any fun name => attributes.contains name then fail .badValue
    if names.contains "__dict__" then return none
    return some names

/-- The body of a declaration: the attributes, then the fields, which take the place of
attributes of the same name. -/
def classBody (spec : ClassSpec) : Session (Items Declared) := do
  let attributes ← spec.attributes.mapM fun (key, literal) => do
    return (key, ← declared (← realise literal))
  let fields ← spec.fields.mapM fun (key, spec) => do
    match spec with
    | .named title => return (key, ← declared (← named title))
    | spec => return (key, Declared.field (← field spec))
  return Items.ofList (attributes ++ fields)
where
  /-- An object is declared as a field if it is one or passes for one. -/
  declared (h : Handle) : Session Declared := do
    match ← cell? h with
    | some (.field field) => return .field field
    | _ =>
      if (← attributeOf? h "contribute_to_struct").isSome then return .contributor
      else return .value h

def classOptions (spec : ClassSpec) (body : Items Declared) :
    Session (Option Handle × Option Handle) := do
  match spec.options?, body.get? optionsName with
  | some options, _ =>
    let held ← realiseItems options
    return (held.get? "name", held.get? "little_endian")
  | none, some (.value h) => optionsOf h
  | none, _ => return (none, none)

/-- The full name of a class has to be a text, and no value can be the cell that it is put
into. -/
def checkTitle (attributes : Items Handle) : Session Unit := do
  if attributes.contains "__classcell__" then fail .wrongType
  match ← (attributes.get? "__qualname__").mapM value with
  | none | some (.text _) => return
  | some _ => fail .wrongType

def checkParent (cls : RecordClass Handle) : Session Unit := do
  if let some id ← classLayout? cls then
    if (← layoutAt id).isOne "_fields" then fail .noAttribute

def declareClass (spec : ClassSpec) : Session (Option Target) := do
  let body ← classBody spec
  let (name?, order?) ← classOptions spec body
  spec.bases.forM fun title => discard (named title)
  let bases ← spec.bases.mapM classNamed
  let body := body.erase optionsName
  let attributes := Items.ofList (body.entries.filterMap fun (key, part) =>
    match part with
    | .value h => some (key, h)
    | _ => none)
  let fieldsOf (entries : List (String × Declared)) : Items Field :=
    Items.ofList (entries.filterMap fun (key, part) =>
      match part with
      | .field field => some (key, field)
      | _ => none)
  if !RecordClass.areCompatible bases then fail .wrongType
  let slots? ← slotsFor spec.name bases attributes
  if spec.name.toList.contains '\x00' then fail .badValue
  checkTitle attributes
  bases.forM checkParent
  let isField (entry : String × Declared) : Bool := !(entry.2 matches .contributor)
  if !body.entries.all isField then
    let first := fieldsOf (body.entries.takeWhile isField)
    let _ ← ofResult (RecordClass.contribute Items.empty
      (RecordClass.flattened (bases.filterMap RecordClass.layout?) first))
    fail .wrongType
  let fields := fieldsOf body.entries
  let id ← allocate (.list [])
  let attributes := attributes.erase "__qualname__"
  let self : Ancestor Handle := { id, name := spec.name, attributes, operations := [], slots? }
  let options : ClassOptions := ⟨← name?.mapM value, ← order?.mapM value⟩
  let cls ← ofResult (RecordClass.declare self bases fields options)
  if bases.any (·.hides "__init_subclass__") then fail .wrongType
  let held := name?.getD (.atom (.ofString spec.name))
  let target? ← cls.layout?.mapM fun layout => storeLayout layout cls held
  store id (.recordClass cls (target?.map Target.id))
  name spec.name (.cell id)
  target?.forM checkTold
  return target?

def isOwnLayout (target : Target) : Session Bool := do
  return (← classLayout? target.cls) == some target.id && !target.isOne "_record_class"

end Session

end ByteLayout
