import ByteLayout.Layout.Basic

/-! # Classes of records

A class is declared with bases, attributes and fields. Its layout has the fields of the
bases, in their order, and then its own; no name may occur twice. Attributes are looked
up along the lineage, which merges those of the bases so that each keeps its order. `α` is
what stands for a value.
-/
namespace ByteLayout

structure Ancestor (α : Type) where
  id : Nat
  name : String
  attributes : Items α
  /-- Names that every record of the class answers to with an operation. -/
  operations : List String
  /-- The only attributes that a record may be given, unless it may be given any. -/
  slots? : Option (List String)
  /-- What the class says about itself. -/
  about? : Option String := none

def Ancestor.map {α β : Type} (f : α → β) (a : Ancestor α) : Ancestor β :=
  { a with attributes := a.attributes.map f }

structure RecordClass (α : Type) where
  self : Ancestor α
  /-- The classes after the class itself, nearest first. -/
  ancestors : List (Ancestor α)
  layout? : Option Layout

structure ClassOptions where
  name? : Option Value
  littleEndian? : Option Value

namespace RecordClass
variable {α : Type}

def name (cls : RecordClass α) : String := cls.self.name

def map {β : Type} (f : α → β) (cls : RecordClass α) : RecordClass β :=
  ⟨cls.self.map f, cls.ancestors.map (Ancestor.map f), cls.layout?⟩

def lineage (cls : RecordClass α) : List (Ancestor α) := cls.self :: cls.ancestors

def isWithin (cls : RecordClass α) (id : Nat) : Bool := cls.lineage.any (·.id == id)

/-- Merges rows so that each keeps its order: next comes the first head that stands in no
tail. There is none if the orders contradict one another. -/
def merge? : Nat → List (List (Ancestor α)) → Option (List (Ancestor α))
  | 0, _ => some []
  | steps + 1, rows =>
    let rows := rows.filter (!·.isEmpty)
    if rows.isEmpty then some []
    else
      let heads := rows.filterMap List.head?
      let free (a : Ancestor α) : Bool := rows.all fun row => row.tail.all (·.id != a.id)
      match heads.find? free with
      | none => none
      | some next =>
        let rest := rows.map fun row =>
          if (row.head?.map (·.id)) == some next.id then row.tail else row
        (merge? steps rest).map (next :: ·)

def ancestorsOf? (bases : List (RecordClass α)) : Option (List (Ancestor α)) :=
  let rows := bases.map lineage ++ [bases.map self]
  merge? (total (rows.map List.length)) rows

/-- The nearest class of a lineage that restricts its records to some attributes. -/
def restricting? (cls : RecordClass α) : Option Nat :=
  (cls.lineage.find? fun a => !(a.slots?.getD []).isEmpty).map (·.id)

def areCompatible (bases : List (RecordClass α)) : Bool :=
  let restricted := bases.filterMap fun cls => cls.restricting?.map fun id => (cls, id)
  restricted.all fun (a, i) => restricted.all fun (b, j) => a.isWithin j || b.isWithin i

/-- Adds fields one by one; a name that is there already is refused. -/
def contribute (fields : Items Field) : List (String × Field) → Except Fault (Items Field)
  | [] => .ok fields
  | (name, field) :: rest =>
    if fields.contains name then .error (.plain .noAttribute (.fieldTwice name))
    else contribute (fields.insert name field) rest

def flattened (parents : List Layout) (fields : Items Field) : List (String × Field) :=
  (parents.map fun parent => parent.fields.entries).flatten ++ fields.entries

def layoutFor (name : String) (parents : List Layout) (fields : Items Field)
    (options : ClassOptions) : Except Fault (Option Layout) :=
  if parents.isEmpty && fields.entries.isEmpty then .ok none
  else do
    let all ← contribute Items.empty (flattened parents fields)
    let inherited := (parents.head?.map (·.order)).getD .big
    let order := (options.littleEndian?.map fun v => ByteOrder.ofFlag v.truthy).getD inherited
    some <$> Layout.define (options.name?.getD (.ofString name)) order all

/-- Declares a class; its attributes and its fields have different names. -/
def declare (self : Ancestor α) (bases : List (RecordClass α)) (fields : Items Field)
    (options : ClassOptions) : Except Fault (RecordClass α) :=
  if !areCompatible bases then .error (.bare .wrongType)
  else
    match ancestorsOf? bases with
    | none => .error (.bare .wrongType)
    | some ancestors => do
      let layout? ← layoutFor self.name (bases.filterMap layout?) fields options
      return ⟨self, ancestors, layout?⟩

def recordOperations : List String :=
  ["to_buffer", "clone", "clear", "copy", "fromkeys", "get", "items", "keys", "pop", "popitem",
    "setdefault", "update", "values", "__class__", "__class_getitem__", "__contains__",
    "__copy__", "__deepcopy__", "__delattr__", "__delitem__", "__dir__", "__eq__", "__format__",
    "__ge__", "__getattr__", "__getattribute__", "__getitem__", "__getstate__", "__gt__",
    "__init__", "__init_subclass__", "__ior__", "__iter__", "__le__", "__len__", "__lt__",
    "__ne__", "__new__", "__or__", "__reduce__", "__reduce_ex__", "__repr__", "__reversed__",
    "__ror__", "__setattr__", "__setitem__", "__sizeof__", "__str__", "__subclasshook__"]

def plain : RecordClass α where
  self :=
    { id := 0, name := "Record", attributes := Items.empty, operations := recordOperations,
      slots? := some ["_struct"], about? := some about }
  ancestors := []
  layout? := none
where
  about : String :=
    "\n    The values of a struct, indexed by field name, together with the\n" ++
    "    definition they come from (the attribute \"struct\").\n\n" ++
    "    The values can be accessed also as attributes, as long as the name of the\n" ++
    "    field doesn't clash with a method of the record.\n    "

def hasRecords (cls : RecordClass α) : Bool := cls.isWithin 0

def classOperations : List String := ["unpack", "unpack_from", "pack", "_get_definition"]

def base : RecordClass α where
  self :=
    { id := 1, name := "Struct", attributes := Items.empty, operations := classOperations,
      slots? := some [] }
  ancestors := [plain.self]
  layout? := none

/-- Whether the records of a class may be given any attribute. -/
def isOpen (cls : RecordClass α) : Bool := cls.lineage.any (·.slots?.isNone)

/-- Whether a record of one class may become one of the other: both let it keep the same
attributes. -/
def isAlike (a b : RecordClass α) : Bool :=
  let kept (cls : RecordClass α) : List String :=
    cls.lineage.flatMap fun ancestor => ancestor.slots?.getD []
  a.isOpen == b.isOpen && kept a == kept b

/-- What a name means for the records of a class, before their own items are asked. -/
inductive Attribute (α : Type) where
  | layout
  /-- The layout of the class, which that of the record need not be. -/
  | classLayout
  /-- What every record keeps for itself. -/
  | slot
  /-- All that a record has been given besides its items. -/
  | own
  /-- The names to which a class restricts its records. -/
  | names (names : List String)
  | operation
  | nothing
  | text (t : String)
  | value (v : α)

def openAttribute? (name : String) : Option (Attribute α) :=
  if name = "__dict__" then some .own
  else if name = "__weakref__" then some .nothing
  else none

def restrictedAttribute? (slots : List String) (name : String) : Option (Attribute α) :=
  if slots.contains name then some .slot
  else if name = "__slots__" then some (.names slots)
  else none

def attribute? (cls : RecordClass α) (name : String) : Option (Attribute α) :=
  if name = "_meta" then some .classLayout
  else if name = "_struct" then some .layout
  else cls.lineage.findSome? fun a =>
    match a.attributes.get? name with
    | some v => some (.value v)
    | none =>
      if a.operations.contains name then some .operation
      else if a.id = 0 ∧ name = "struct" then some .layout
      else if a.id = 0 ∧ name = "__hash__" then some .nothing
      else if name = "__doc__" then some ((a.about?.map .text).getD .nothing)
      else
        match a.slots? with
        | some slots => restrictedAttribute? slots name
        | none => openAttribute? name

/-- Whether a class has put a value in the place of an operation. -/
def hides (cls : RecordClass α) (operation : String) : Bool :=
  match cls.attribute? operation with
  | some (.value _) => true
  | _ => false

/-- What comes of asking the records of a class for an index. A value cannot be asked. -/
def index? (cls : RecordClass α) : Option (Except PlainFault Int) :=
  if cls.hides "__index__" then some (.error .wrongType) else none

end RecordClass

end ByteLayout
