import ByteLayout.Proofs.Field.CarriedText

/-! # What comes back from a slot

Representable values come back as themselves, lossless fields keep every byte of their slot, and
whatever a settling field takes is the same after one pass as after any more.
-/
namespace ByteLayout.Field

/-- Fields that read every row of bytes as a value of which they write the same bytes, unless their
enumeration has an answer of its own for it. -/
inductive IsLossless : Field → Prop
  | integer (name : String) (signed : Bool) (width : Nat) (letter : String)
      (members : Option Enumeration) (intValued : ∀ e ∈ members, e.IsIntValued) :
      IsLossless (.integer name signed width letter members)
  | bytes (size : Value) : IsLossless (.bytes size)
  | bits (size : Value) : IsLossless (.bits size)
  | latin1 (shape : TextShape) (known : shape.findEncoding = .ok .latin1) :
      IsLossless (.string shape)

/-- Fields of which a value that was read once is read as itself from then on. A text needs a
slot of whole units. -/
inductive IsSettling : Field → Nat → Prop
  | lossless {field : Field} {n : Nat} (h : field.IsLossless) : IsSettling field n
  | string {n : Nat} (shape : TextShape) (encoding : Encoding)
      (known : shape.findEncoding = .ok encoding) (whole : encoding.unit ∣ n) :
      IsSettling (.string shape) n
  | cstring {n : Nat} (shape : TerminatedShape) : IsSettling (.cstring shape) n

/-- In a slot of `n` bytes of the field the value `v` is representable, and `w` is what it is
read as: the integer, the member, the bytes, the bits or the text that it is. -/
inductive Represents : Field → Nat → Value → Value → Prop
  | int {name : String} {signed : Bool} {width : Nat} {letter : String}
      {members : Option Enumeration} {v : Value} {i : Int} (isInt : v.asInt? = some i)
      (inRange : Code.inRange signed width i = true)
      (absent : ∀ e ∈ members, e.find? (.int i) = none ∧ e.Knows (.int i)) :
      Represents (.integer name signed width letter members) width v (.int i)
  | member {name : String} {signed : Bool} {width : Nat} {letter : String} {e : Enumeration}
      {member : String} {value : Value} {i : Int} (isInt : value.asInt? = some i)
      (inRange : Code.inRange signed width i = true)
      (canonical : e.find? (.int i) = some (.member e.tag member value)) :
      Represents (.integer name signed width letter (some e)) width (.member e.tag member value)
        (.member e.tag member value)
  | bytes {n : Nat} {size v : Value} {b : Bytes} (isBytes : v.asBytes? = some b)
      (full : b.length = n) : Represents (.bytes size) n v (.buffer b)
  | bits {n : Nat} {size v : Value} {row : Bits} (isBits : v.asBits? = some row)
      (full : row.length = 8 * n) : Represents (.bits size) n v (.bitBuffer row)
  | string {n : Nat} {shape : TextShape} {encoding : Encoding} {t : Text} {raw : Bytes}
      (known : shape.findEncoding = .ok encoding) (written : encoding.encode? t = some raw)
      (full : raw.length = n) : Represents (.string shape) n (.text t) (.text t)
  | cstring {n : Nat} {shape : TerminatedShape} {t : Text} {raw : Bytes} (noZero : 0 ∉ t)
      (written : shape.encoding.encode? t = some raw)
      (fits : raw.length ≤ shape.room n) : Represents (.cstring shape) n (.text t) (.text t)

section
variable {field : Field} {n : Nat} {order : ByteOrder} {v w : Value}

theorem IsLossless.integer_none (name : String) (signed : Bool) (width : Nat) (letter : String) :
    (Field.integer name signed width letter none).IsLossless := by
  apply IsLossless.integer
  intro e he
  cases he

theorem IsLossless.builtIn (h : field.IsLossless) : field.BuiltIn := by
  cases h with
  | integer => exact .integer ..
  | bytes => exact .bytes _
  | bits => exact .bits _
  | latin1 shape known => exact .string shape .latin1 known

theorem IsLossless.lossless (h : field.IsLossless) (hn : field.slotSize? = some n) :
    field.Lossless n order := by
  cases h with
  | integer name signed width letter members intValued =>
    obtain rfl := width_eq hn
    exact lossless_integer intValued
  | bytes => exact lossless_bytes
  | bits => exact lossless_bits (asInt?_declared hn).1
  | latin1 shape known => exact lossless_latin1 (asInt?_declared hn).1 known

theorem IsSettling.builtIn (h : field.IsSettling n) : field.BuiltIn := by
  cases h with
  | lossless h => exact h.builtIn
  | string shape encoding known => exact .string shape encoding known
  | cstring shape => exact .cstring shape

/-- Whatever a field takes, it reads as a value that it takes and reads as itself. -/
theorem IsSettling.exists_carries (h : field.IsSettling n) (hn : field.slotSize? = some n)
    {raw : Bytes} (hw : field.write n v order = .ok raw) (hk : field.Knows order (padded n raw)) :
    ∃ w, field.Carries n order v w ∧ field.Carries n order w w := by
  cases h with
  | lossless h => exact (h.lossless hn).exists_carries h.builtIn hn hw hk
  | string shape encoding known whole =>
    exact exists_carries_string (asInt?_declared hn).1 known whole hw
  | cstring shape => exact exists_carries_cstring hn hw

theorem Represents.builtIn (h : field.Represents n v w) : field.BuiltIn := by
  cases h with
  | int | member => exact .integer ..
  | bytes => exact .bytes _
  | bits => exact .bits _
  | string known => exact .string _ _ known
  | cstring => exact .cstring _

theorem Represents.carries (h : field.Represents n v w) (hn : field.slotSize? = some n) :
    field.Carries n order v w := by
  cases h with
  | int isInt inRange absent =>
    exact carries_integer (asInt?_unwrapped isInt) inRange (lookedUp_of_absent absent)
  | member isInt inRange canonical =>
    refine carries_integer ?_ inRange (lookedUp_of_find? canonical)
    rwa [unwrapped_member]
  | bytes isBytes full => exact carries_bytes isBytes full
  | bits isBits full => exact carries_bits (asInt?_declared hn).1 isBits full
  | string known written full =>
    obtain ⟨ht, rfl⟩ := Encoding.encode?_eq_some.mp written
    exact carries_string (asInt?_declared hn).1 known (.of_length ht full) fun _ => full
  | @cstring n shape t raw noZero written fits =>
    have hc := carries_cstring order hn written fun _ => fits
    obtain ⟨ht, rfl⟩ := Encoding.encode?_eq_some.mp written
    rwa [beforeZero_of_notMem noZero, List.take_of_length_le fits,
      Encoding.decode_encode? written] at hc

/-- A representable value comes back as an equal one. -/
theorem Represents.equal (h : field.Represents n v w) : Value.equal w v = true := by
  cases h with
  | int isInt => rw [Value.equal_of_asInt? (Value.asInt?_int _) isInt, beq_self_eq_true]
  | @member _ _ _ _ e member value i isInt =>
    cases hi : e.tag.integral with
    | true =>
      have hm : (Value.member e.tag member value).asInt? = some i := by
        rw [Value.asInt?, if_pos hi, isInt]
      rw [Value.equal_of_asInt? hm hm, beq_self_eq_true]
    | false =>
      simp [Value.equal, Value.equalAtoms, Value.number?, Value.asInt?, hi, Value.asBits?]
  | bytes isBytes =>
    cases v with
    | bytes | buffer =>
      cases isBytes
      simp [Value.equal, Value.equalAtoms, Value.number?, Value.asInt?, Value.asBits?,
        Value.asBytes?]
    | _ => cases isBytes
  | bits isBits =>
    cases v with
    | bits | bitBuffer =>
      cases isBits
      simp [Value.equal, Value.equalAtoms, Value.number?, Value.asInt?, Value.asBits?,
        Value.readAsBits?]
    | _ => cases isBits
  | string | cstring =>
    simp [Value.equal, Value.equalAtoms, Value.number?, Value.asInt?, Value.asBits?]

end

end ByteLayout.Field
