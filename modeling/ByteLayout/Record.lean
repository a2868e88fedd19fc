import ByteLayout.Layout.Pack
import ByteLayout.RecordClass

/-! # Records

A record holds the values of a layout under their names and remembers the layout. It may
hold other names too, and may lack declared ones: only packing asks for them. `α` is what
stands for a value.
-/
namespace ByteLayout

def RecordClass.lookup {α : Type} (cls : RecordClass α) (extras items : Items α)
    (name : String) : Except Fault (RecordClass.Attribute α) :=
  match cls.attribute? name, extras.get? name with
  | some .layout, _ => .ok .layout
  | some .own, _ => .ok .own
  | _, some v => .ok (.value v)
  | some .slot, none | none, none =>
    match items.get? name with
    | some v => .ok (.value v)
    | none => .error (.plain .noAttribute (.noSuchAttribute cls.name name))
  | some found, none => .ok found

structure Record (α : Type) where
  cls : RecordClass α
  layout : Layout
  items : Items α
  /-- Attributes that are no items. -/
  extras : Items α

namespace Record
variable {α : Type}

/-- A record of a class; the layout of the class is taken unless another one is given. -/
def create (cls : RecordClass α) (layout? : Option Layout) (items : Items α) :
    Except Fault (Record α) :=
  match layout? <|> cls.layout? with
  | some layout => .ok ⟨cls, layout, items, Items.empty⟩
  | none => .error (.plain .wrongType (.noLayout cls.name))

def set (r : Record α) (name : String) (v : α) : Record α :=
  { r with items := r.items.insert name v }

def erase (r : Record α) (name : String) : Except Fault (Record α) :=
  if r.items.contains name then .ok { r with items := r.items.erase name }
  else .error (.bare .noKey)

inductive Part where
  | item
  | layout
  | cls
  /-- All that it has been given besides its items. -/
  | own
  | extra

/-- A declared name is an item, whatever else it means; any other that means nothing to the record
is an attribute of its own, if its class lets it have one. -/
def partOf (r : Record α) (name : String) : Except Fault Part :=
  if r.layout.contains name then .ok .item
  else if name = "_struct" then .ok .layout
  else if name = "__class__" then .ok .cls
  else if name = "__weakref__" then .error (.bare .noAttribute)
  else
    match r.cls.attribute? name with
    | some .own => .ok .own
    | some .layout => .error (.bare .noAttribute)
    | some .slot => .ok .extra
    | _ => if r.cls.isOpen then .ok .extra else .error (.bare .noAttribute)

structure Views (α : Type) where
  layout? : α → Option Layout
  cls? : α → Option (RecordClass α)
  /-- The items of a table that have a text for a key. -/
  items? : α → Option (Items α)

/-- Gives a value to an attribute. A record has a layout and a class of its own kind whatever it is
given. -/
def assign (views : Views α) (r : Record α) (name : String) (v : α) : Except Fault (Record α) :=
  (r.partOf name).bind fun part =>
    match part with
    | .item => .ok (r.set name v)
    | .extra => .ok { r with extras := r.extras.insert name v }
    | .layout =>
      match views.layout? v with
      | some layout => .ok { r with layout }
      | none => .error (.bare .noAttribute)
    | .cls =>
      match views.cls? v with
      | some cls => if r.cls.isAlike cls then .ok { r with cls } else .error (.bare .wrongType)
      | none => .error (.bare .wrongType)
    | .own =>
      match views.items? v with
      | some extras => .ok { r with extras }
      | none => .error (.bare .wrongType)

def map {β : Type} (f : α → β) (r : Record α) : Record β :=
  ⟨r.cls.map f, r.layout, r.items.map f, r.extras.map f⟩

def toBuffer (r : Record Value) : Except Fault Bytes := r.layout.pack r.items.get?

/-- Copies the values of declared names as their fields say. -/
def copiedItems {m : Type → Type} [Monad m] (copy : Field → α → m α) (layout : Layout) :
    List (String × α) → m (List (String × α))
  | [] => pure []
  | (name, v) :: rest => do
    let copied ← match layout.field? name with
      | some field => copy field v
      | none => pure v
    return (name, copied) :: (← copiedItems copy layout rest)

def renewed (r : Record α) (entries : List (String × α)) : Record α :=
  { r with items := Items.ofList entries, extras := Items.empty }

/-- The record with copies of the values of declared names, made one after the other. -/
def cloneWith {m : Type → Type} [Monad m] (copy : Field → α → m α) (r : Record α) :
    m (Record α) :=
  r.renewed <$> copiedItems copy r.layout r.items.entries

def clone (r : Record Value) : Except Fault (Record Value) := r.cloneWith Field.copy

end Record

end ByteLayout
