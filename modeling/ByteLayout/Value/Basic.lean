import ByteLayout.Bits
import ByteLayout.FaultKind
import ByteLayout.Ieee.Number
import ByteLayout.Text.Basic

/-! # Values

The values that fields decode and encode, and those that a caller may hand in instead.
A field takes each of them in its own way or refuses it. `bytes` and `bits` are fixed,
`buffer` and `bitBuffer` hold the same things and may be changed in place.
-/
namespace ByteLayout

/-- Which enumeration a member belongs to. The members of an integral one are integers. -/
structure EnumTag where
  id : Nat
  name : String
  integral : Bool
deriving DecidableEq, Repr

inductive Value where
  | none
  | bool (b : Bool)
  | int (n : Int)
  /-- A double, given by its pattern. -/
  | float (pattern : Nat)
  | text (t : Text)
  | bytes (bytes : Bytes)
  | buffer (bytes : Bytes)
  | bits (row : Bits)
  | bitBuffer (row : Bits)
  | list (items : List Value)
  | table (entries : List (Value × Value))
  | member (tag : EnumTag) (name : String) (value : Value)
  /-- A record. Its class may have put something in the place of an index. -/
  | record (className : String) (layoutName : Value) (entries : List (String × Value))
    (index : Option (Except PlainFault Int))
  /-- A layout, told from others by its number. -/
  | layout (id : Nat) (name : Value) (size : Nat)
  /-- An enumeration, which gives its members one by one. -/
  | members (tag : EnumTag) (items : List Value)
  /-- An object that gives an integer where an index is asked for, or fails to. -/
  | indexed (kind : String) (id : Nat) (index : Except PlainFault Int)
  /-- Something else, of which only the kind and its number are known. -/
  | thing (kind : String) (id : Nat)
deriving Inhabited

namespace Value

def ofString (s : String) : Value := text (Text.of s)

def kind : Value → String
  | none => "NoneType"
  | bool _ => "bool"
  | int _ => "int"
  | float _ => "float"
  | text _ => "str"
  | bytes _ => "bytes"
  | buffer _ => "bytearray"
  | bits _ => "Bits"
  | bitBuffer _ => "BitArray"
  | list _ => "list"
  | table _ => "dict"
  | member tag _ _ => tag.name
  | record className .. => className
  | layout .. => "StructDefinition"
  | members .. => "EnumType"
  | indexed kind _ _ | thing kind _ => kind

/-- The integer that a value is: a truth value counts as 0 or 1, a member of an integral
enumeration as its value. -/
def asInt? : Value → Option Int
  | bool b => some b.toNat
  | int n => some n
  | member tag _ value => if tag.integral then asInt? value else Option.none
  | _ => Option.none

def isInt (v : Value) : Bool := v.asInt?.isSome

/-- What comes of asking a value for an index. Besides integers some objects have one. -/
def index? : Value → Option (Except PlainFault Int)
  | indexed _ _ index => some index
  | record _ _ _ index => index
  | v => v.asInt?.map .ok

def isText : Value → Bool
  | text _ => true
  | _ => false

def asBits? : Value → Option Bits
  | bits row | bitBuffer row => some row
  | _ => Option.none

def asBytes? : Value → Option Bytes
  | bytes b | buffer b => some b
  | _ => Option.none

def truthy : Value → Bool
  | none => false
  | bool b => b
  | int n => n != 0
  | float pattern => !(Ieee.double.read pattern).equalsInt 0
  | text t => !t.isEmpty
  | bytes b | buffer b => !b.isEmpty
  | bits row | bitBuffer row => !row.isEmpty
  | list items => !items.isEmpty
  | table entries => !entries.isEmpty
  | member tag _ value => !tag.integral || truthy value
  | record _ _ entries _ => !entries.isEmpty
  | layout .. | members .. | indexed .. | thing .. => true

def identity? : Value → Option Nat
  | layout id _ _ | indexed _ id _ | thing _ id => some id
  | members tag _ => some tag.id
  | _ => Option.none

def entries? : Value → Option (List (Value × Value))
  | table entries => some entries
  | record _ _ entries _ => some (entries.map fun entry => (ofString entry.1, entry.2))
  | _ => Option.none

theorem asInt?_int (n : Int) : (int n).asInt? = some n := rfl

theorem index?_of_asInt? {v : Value} {n : Int} (h : v.asInt? = some n) :
    v.index? = some (.ok n) := by
  cases v with
  | bool | int | member => simp only [index?, h, Option.map_some]
  | _ => cases h

end Value

end ByteLayout
