import ByteLayout.Bits.Notation
import ByteLayout.Value.Basic

/-! # Equality of values

Numbers are compared by what they denote, rows of bytes by their content whether fixed
or not, a row of bits with anything that can be read as bits, and tables and records
by their entries in any order.
-/
namespace ByteLayout.Value

def number? : Value → Option (Int ⊕ Ieee.Number)
  | float pattern => some (.inr (Ieee.double.read pattern))
  | v => v.asInt?.map .inl

def equalNumbers : Int ⊕ Ieee.Number → Int ⊕ Ieee.Number → Bool
  | .inl a, .inl b => a == b
  | .inl a, .inr b => b.equalsInt a
  | .inr a, .inl b => a.equalsInt b
  | .inr a, .inr b => a.equals b

def readAsBits? : Value → Option Bits
  | list items | members _ items => some (items.map truthy)
  | text t => (Bits.ofText t).toOption
  | table entries => some (entries.map fun entry => entry.1.truthy)
  | record _ _ entries _ => some (entries.map fun entry => !entry.1.isEmpty)
  | v => v.asBits? <|> v.asBytes?.map Bits.ofBytes

def equalAtoms (a b : Value) : Bool :=
  match a.number?, b.number? with
  | some x, some y => equalNumbers x y
  | _, _ =>
    if a.asBits?.isSome || b.asBits?.isSome then
      match a.readAsBits?, b.readAsBits? with
      | some x, some y => x == y
      | _, _ => false
    else
      match a, b with
      | none, none => true
      | text s, text t => s == t
      | member s x _, member t y _ => s == t && x == y
      | _, _ =>
        match a.asBytes?, b.asBytes? with
        | some x, some y => x == y
        | _, _ => a.identity?.isSome && a.identity? == b.identity?

/-- Whether two values can be compared: a text beside a row of bits has to be one, or to write
bytes. -/
def isComparable (a b : Value) : Bool :=
  let isRow (row v : Value) : Bool :=
    match v with
    | text t => row.asBits?.isNone || !(Bits.ofText t matches .error .badValue)
    | _ => true
  isRow a b && isRow b a

/-- Whether a value can be looked up. One that can be changed cannot. -/
def isKey : Value → Bool
  | buffer _ | bitBuffer _ | list _ | table _ | record .. => false
  | _ => true

mutual

def equal : Value → Value → Bool
  | list xs, b =>
    match b with
    | list ys => equalLists xs ys
    | _ => equalAtoms (list xs) b
  | table xs, b =>
    match b.entries? with
    | some ys => xs.length == ys.length && equalEntries xs ys
    | Option.none => equalAtoms (table xs) b
  | record className layoutName xs index, b =>
    match b.entries? with
    | some ys => xs.length == ys.length && equalItems xs ys
    | Option.none => equalAtoms (record className layoutName xs index) b
  | a, b => equalAtoms a b
termination_by structural a => a

def equalLists : List Value → List Value → Bool
  | [], [] => true
  | x :: xs, y :: ys => equal x y && equalLists xs ys
  | _, _ => false
termination_by structural xs => xs

def equalEntries : List (Value × Value) → List (Value × Value) → Bool
  | [], _ => true
  | (key, value) :: rest, others =>
    others.any (fun other => equal key other.1 && equal value other.2) && equalEntries rest others
termination_by structural xs => xs

def equalItems : List (String × Value) → List (Value × Value) → Bool
  | [], _ => true
  | (name, value) :: rest, others =>
    others.any (fun other => equalAtoms (ofString name) other.1 && equal value other.2) &&
      equalItems rest others
termination_by structural xs => xs

end

/-- Whether looking up one value finds the other. A row of bits is found by itself alone. -/
def sameKey (a b : Value) : Bool :=
  a.isKey && b.isKey && a.asBits?.isSome == b.asBits?.isSome && equal a b

end ByteLayout.Value
