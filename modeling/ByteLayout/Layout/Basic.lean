import ByteLayout.Field.Basic
import ByteLayout.Items

/-! # Layouts

A layout puts its fields one after the other without gaps, so the offset of a field is
the sum of the sizes before it. It can be built exactly when every size is a positive
integer, and a truth value is none.
-/
namespace ByteLayout

def Field.slotSize? (field : Field) : Option Nat :=
  match field.declared with
  | .bool _ => none
  | size => size.asInt?.bind fun n => if 0 < n then some n.toNat else none

structure Slot where
  name : String
  field : Field
  size : Nat
  sized : field.slotSize? = some size

structure Layout where
  name : Value
  order : ByteOrder
  slots : List Slot
  distinct : (slots.map Slot.name).Nodup

namespace Layout

def badSize (name : Value) (fieldName : String) (field : Field) : Fault :=
  match field.size, field.shown with
  | .ok size, .ok shown =>
    if size.asInt?.all Text.isWritable then
      .layout .definition [name, .ofString fieldName] (.badSize shown size)
    else .bare .badValue
  | .error fault, _ | _, .error fault => fault

/-- The slots of the fields, or the fault of the first field that cannot have one. -/
def slotsOf (name : Value) : List (String × Field) → Except Fault (List Slot)
  | [] => .ok []
  | (fieldName, field) :: rest =>
    match sized : field.slotSize? with
    | none => .error (badSize name fieldName field)
    | some size => (slotsOf name rest).map (⟨fieldName, field, size, sized⟩ :: ·)

theorem names_slotsOf (name : Value) (fields : List (String × Field)) (slots : List Slot)
    (h : slotsOf name fields = .ok slots) : slots.map Slot.name = fields.map Prod.fst := by
  induction fields generalizing slots with
  | nil => cases h; rfl
  | cons entry rest ih =>
    rw [slotsOf] at h
    split at h
    · cases h
    · cases hr : slotsOf name rest with
      | error fault => rw [hr] at h; cases h
      | ok tail =>
        rw [hr] at h
        cases h
        rw [List.map_cons, List.map_cons, ih tail hr]

def define (name : Value) (order : ByteOrder) (fields : Items Field) : Except Fault Layout :=
  match h : slotsOf name fields.entries with
  | .error fault => .error fault
  | .ok slots => .ok ⟨name, order, slots, by
      rw [names_slotsOf name fields.entries slots h]
      exact fields.distinct⟩

def size (layout : Layout) : Nat := total (layout.slots.map Slot.size)

def extent (slots : List Slot) : Nat := total (slots.map Slot.size)

theorem extent_nil : extent [] = 0 := rfl

theorem extent_cons (slot : Slot) (rest : List Slot) :
    extent (slot :: rest) = slot.size + extent rest := rfl

def names (layout : Layout) : List String := layout.slots.map Slot.name

def fields (layout : Layout) : Items Field where
  entries := layout.slots.map fun slot => (slot.name, slot.field)
  distinct := by
    rw [List.map_map]
    exact layout.distinct

def field? (layout : Layout) (name : String) : Option Field := layout.fields.get? name

def contains (layout : Layout) (name : String) : Bool := (layout.field? name).isSome

def placedFrom (start : Nat) : List Slot → List (Nat × Slot)
  | [] => []
  | slot :: rest => (start, slot) :: placedFrom (start + slot.size) rest

def placed (layout : Layout) : List (Nat × Slot) := placedFrom 0 layout.slots

end Layout

end ByteLayout
