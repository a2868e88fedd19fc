import ByteLayout.Proofs.Field.Written

/-! # Values put through a slot

What a built-in field makes of a value that is written and read back: for integers, with or
without an enumeration, for bytes and for bits. Whatever stands in such a slot is read as a value
that is written as the same bytes.
-/
namespace ByteLayout

namespace Enumeration

def IsIntValued (e : Enumeration) : Prop := ∀ member ∈ e.members, member.2.isInt = true

/-- A member has the value, or its look-up ends as that of a bad value. What the rule of the
enumeration may answer instead is left open. -/
def Knows (e : Enumeration) (v : Value) : Prop :=
  (e.find? v).isSome = true ∨ ∃ fault, e.lookup v = .error fault ∧ fault.isBadValue = true

end Enumeration

def Field.Knows (field : Field) (order : ByteOrder) (slot : Bytes) : Prop :=
  match field with
  | number _ format (some e) => ∀ v, format.decode order slot = .ok v → e.Knows v
  | _ => True

theorem Value.equal_of_asInt? {a b : Value} {m n : Int} (ha : a.asInt? = some m)
    (hb : b.asInt? = some n) : Value.equal a b = (m == n) := by
  have hna : a.number? = some (.inl m) := by
    cases a <;> first | cases ha; done | simp only [number?, ha, Option.map_some]
  have hnb : b.number? = some (.inl n) := by
    cases b <;> first | cases hb; done | simp only [number?, hb, Option.map_some]
  have he : equal a b = equalAtoms a b := by
    cases a <;> first | cases ha; done | simp only [equal]
  rw [he]
  simp only [equalAtoms, hna, hnb, equalNumbers]

namespace Enumeration

variable {e : Enumeration} {n : Int} {v w : Value}

/-- The member that is found has the integer as its value. -/
theorem IsIntValued.of_find? (he : e.IsIntValued) (h : e.find? (.int n) = some w) :
    ∃ name value, w = .member e.tag name value ∧ value.asInt? = some n := by
  obtain ⟨member, hf, rfl⟩ := Option.map_eq_some_iff.mp h
  obtain ⟨m, hm⟩ := Option.isSome_iff_exists.mp (he member (List.mem_of_find?_eq_some hf))
  have hk := List.find?_some hf
  simp only [Value.sameKey, Bool.and_eq_true, Value.equal_of_asInt? hm (Value.asInt?_int n),
    beq_iff_eq] at hk
  exact ⟨member.1, member.2, rfl, hk.2 ▸ hm⟩

theorem lookup_of_find? (h : e.find? v = some w) : e.lookup v = .ok w := by
  rw [lookup, h]

theorem lookup_of_absent (h : e.find? v = none) : e.lookup v = e.missing v >>= e.accept := by
  rw [lookup, h]

theorem decode_of_lookup (h : e.lookup v = .ok w) : e.decode v = pure w := by
  rw [decode, h]

theorem decode_of_find? (h : e.find? v = some w) : e.decode v = pure w :=
  decode_of_lookup (lookup_of_find? h)

/-- An integer that is a bad value is kept, with a warning. -/
theorem decode_of_bad {fault : Fault} (h : e.lookup (.int n) = .error fault)
    (hb : fault.isBadValue = true) :
    e.decode (.int n) = ⟨[⟨e.tag.name, n⟩], .ok (.int n)⟩ := by
  rw [decode, h]
  dsimp only
  rw [if_pos hb]
  rfl

/-- Any other fault of a look-up is passed on. -/
theorem decode_of_fault {fault : Fault} (h : e.lookup v = .error fault)
    (hb : fault.isBadValue = false) : e.decode v = .ofResult (.error fault) := by
  rw [decode, h]
  dsimp only
  rw [hb]
  exact if_neg Bool.false_ne_true

/-- Without a rule of its own an enumeration knows every value. -/
theorem knows_of_plain (h : ∀ v, e.missing v = .ok .none) (v : Value) : e.Knows v := by
  cases hf : e.find? v with
  | some w =>
    left
    rw [hf]
    rfl
  | none =>
    refine .inr ⟨.bare .badValue, ?_, rfl⟩
    rw [lookup_of_absent hf, h v]
    rfl

theorem Knows.decode_of_absent (hk : e.Knows (.int n)) (h : e.find? (.int n) = none) :
    e.decode (.int n) = ⟨[⟨e.tag.name, n⟩], .ok (.int n)⟩ := by
  rcases hk with hs | ⟨fault, hl, hb⟩
  · rw [h] at hs
    cases hs
  · exact decode_of_bad hl hb

theorem Knows.exists_decode (hk : e.Knows (.int n)) :
    ∃ w, (e.decode (.int n)).result = .ok w := by
  cases hf : e.find? (.int n) with
  | some w => exact ⟨w, congrArg Logged.result (decode_of_find? hf)⟩
  | none => exact ⟨_, congrArg Logged.result (hk.decode_of_absent hf)⟩

end Enumeration

namespace Field

/-- A value that is put through a slot of `n` bytes of the field comes out as `w`. -/
def Carries (field : Field) (n : Nat) (order : ByteOrder) (v w : Value) : Prop :=
  ∃ raw, field.write n v order = .ok raw ∧ (field.read order (padded n raw)).result = .ok w

/-- Every row of bytes in a slot of the field is read as a value that writes it again, if its
enumeration knows it. -/
def Lossless (field : Field) (n : Nat) (order : ByteOrder) : Prop :=
  ∀ slot : Bytes, slot.length = n → field.Knows order slot →
    ∃ w, (field.read order slot).result = .ok w ∧ field.write n w order = .ok slot

theorem Lossless.exists_carries {field : Field} (hf : field.BuiltIn) {n : Nat}
    (hn : field.slotSize? = some n) {order : ByteOrder} (hl : field.Lossless n order) {v : Value}
    {raw : Bytes} (h : field.write n v order = .ok raw) (hk : field.Knows order (padded n raw)) :
    ∃ w, field.Carries n order v w ∧ field.Carries n order w w := by
  have hfull := length_padded_write hf hn h
  obtain ⟨w, hr, hw⟩ := hl (padded n raw) hfull hk
  refine ⟨w, ⟨raw, h, hr⟩, padded n raw, hw, ?_⟩
  rwa [padded_of_length hfull]

/-! ## Integers -/

theorem asInt?_unwrapped {members : Option Enumeration} {v : Value} {n : Int}
    (h : v.asInt? = some n) : (unwrapped members v).asInt? = some n := by
  unfold unwrapped
  split
  · next e tag name value =>
    rw [Value.asInt?] at h
    split at h
    · split
      · exact h
      · rw [Value.asInt?, if_pos ‹_›, h]
    · cases h
  · exact h

theorem unwrapped_member (e : Enumeration) (name : String) (value : Value) :
    unwrapped (some e) (.member e.tag name value) = value := if_pos (beq_self_eq_true e.tag)

section Integer
variable {name letter : String} {signed : Bool} {width : Nat} {members : Option Enumeration}
  {order : ByteOrder}

def heldInt (signed : Bool) (width : Nat) (order : ByteOrder) (slot : Bytes) : Int :=
  if signed then signedOfNat width (order.read slot) else order.read slot

theorem inRange_iff {n : Int} : Code.inRange signed width n = true ↔
    if signed then -(byteSpan width : Int) ≤ 2 * n ∧ 2 * n < byteSpan width
    else 0 ≤ n ∧ n < byteSpan width := by
  cases signed <;> simp [Code.inRange]

/-- Two's complement: an integer in range is told by its residue. -/
theorem heldInt_write {n : Int} (hr : Code.inRange signed width n = true) :
    heldInt signed width order (order.write width (residue width n)) = n := by
  have hs : (0 : Int) < byteSpan width := Int.natCast_pos.mpr (byteSpan_pos width)
  have hm : ((residue width n : Nat) : Int) = n % byteSpan width :=
    Int.toNat_of_nonneg (Int.emod_nonneg n (Int.ne_of_gt hs))
  have hl : residue width n < byteSpan width := by
    have := Int.emod_lt_of_pos n hs
    omega
  have hrd : order.read (order.write width (residue width n)) = residue width n := by
    rw [order.read_write, Nat.mod_eq_of_lt hl]
  have hneg : n < 0 → -(byteSpan width : Int) ≤ n → n % byteSpan width = n + byteSpan width := by
    intro h0 hle
    rw [← Int.add_emod_right, Int.emod_eq_of_lt (by omega) (by omega)]
  rw [heldInt, hrd]
  rw [inRange_iff] at hr
  cases signed with
  | true =>
    simp only [if_true] at hr ⊢
    unfold signedOfNat
    rcases Int.lt_or_le n 0 with h0 | h0
    · rw [hneg h0 (by omega)] at hm
      split <;> omega
    · rw [Int.emod_eq_of_lt h0 (by omega)] at hm
      split <;> omega
  | false =>
    simp only [Bool.false_eq_true, if_false] at hr ⊢
    rw [hm, Int.emod_eq_of_lt hr.1 hr.2]

/-- Every slot holds an integer in range, whose residue it is. -/
theorem write_heldInt (signed : Bool) (order : ByteOrder) {slot : Bytes}
    (hl : slot.length = width) :
    Code.inRange signed width (heldInt signed width order slot) = true ∧
      order.write width (residue width (heldInt signed width order slot)) = slot := by
  have hlt : order.read slot < byteSpan width := by
    have := littleNat_lt (order.arrange slot)
    rwa [order.length_arrange, hl] at this
  have hres : ∀ k : Int,
      (order.read slot : Int) + byteSpan width * k = heldInt signed width order slot →
      residue width (heldInt signed width order slot) = order.read slot := by
    intro k hk
    rw [residue, ← hk, Int.add_mul_emod_self_left, Int.emod_eq_of_lt (by omega) (by omega),
      Int.toNat_natCast]
  have hw : ∀ m, m = order.read slot → order.write width m = slot := by
    rintro m rfl
    rw [← hl, order.write_read]
  rw [inRange_iff]
  cases signed with
  | true =>
    by_cases h2 : 2 * order.read slot < byteSpan width
    · have hh : heldInt true width order slot = order.read slot := by
        simp only [heldInt, signedOfNat, if_true, if_pos h2]
      refine ⟨?_, hw _ (hres 0 (by omega))⟩
      simp only [hh, if_true]
      omega
    · have hh : heldInt true width order slot = (order.read slot : Int) - byteSpan width := by
        simp only [heldInt, signedOfNat, if_true, if_neg h2]
      refine ⟨?_, hw _ (hres (-1) (by omega))⟩
      simp only [hh, if_true]
      omega
  | false =>
    have hh : heldInt false width order slot = order.read slot := rfl
    refine ⟨?_, hw _ (hres 0 (by omega))⟩
    simp only [hh, Bool.false_eq_true, if_false]
    omega

def lookedUp (members : Option Enumeration) (n : Int) : Logged Value :=
  match members with
  | none => pure (.int n)
  | some e => e.decode (.int n)

theorem read_integer {slot : Bytes} (hl : slot.length = width) :
    (integer name signed width letter members).read order slot =
      lookedUp members (heldInt signed width order slot) := by
  have ht : slot.take width = slot := List.take_of_length_le (Nat.le_of_eq hl)
  have hd : (Code.integer signed width).decode order 1 slot =
      .int (heldInt signed width order slot) := by
    simp only [Code.decode, ht, heldInt]
  cases members with
  | none =>
    simp only [integer, read, decode_integer, hd]
    rfl
  | some e =>
    simp only [integer, read, decode_integer, hd]
    rfl

/-- A field of one integer knows its slot when its enumeration knows the integer. -/
theorem knows_integer_iff {slot : Bytes} (hl : slot.length = width) :
    (integer name signed width letter members).Knows order slot ↔
      ∀ e ∈ members, e.Knows (.int (heldInt signed width order slot)) := by
  have ht : slot.take width = slot := List.take_of_length_le (Nat.le_of_eq hl)
  have hd : (⟨letter, [⟨.integer signed width, 1⟩]⟩ : Format).decode order slot =
      .ok (.int (heldInt signed width order slot)) := by
    rw [decode_integer]
    simp only [Code.decode, ht, heldInt]
  cases members with
  | none => exact ⟨fun _ => nofun, fun _ => trivial⟩
  | some e =>
    constructor
    · intro h other ho
      obtain rfl := Option.some.inj ho
      exact h _ hd
    · intro h v hv
      obtain rfl := Except.ok.inj (hd.symm.trans hv)
      exact h e rfl

theorem lookedUp_of_find? {e : Enumeration} {n : Int} {w : Value}
    (h : e.find? (.int n) = some w) : (lookedUp (some e) n).result = .ok w := by
  rw [lookedUp, Enumeration.decode_of_find? h]
  rfl

theorem lookedUp_of_absent {n : Int}
    (h : ∀ e ∈ members, e.find? (.int n) = none ∧ e.Knows (.int n)) :
    (lookedUp members n).result = .ok (.int n) := by
  cases members with
  | none => rfl
  | some e =>
    obtain ⟨hf, hk⟩ := h e rfl
    rw [lookedUp, hk.decode_of_absent hf]

theorem carries_integer {v w : Value} {n : Int} (hv : (unwrapped members v).asInt? = some n)
    (hr : Code.inRange signed width n = true) (hw : (lookedUp members n).result = .ok w) :
    (integer name signed width letter members).Carries width order v w := by
  have hl := order.length_write width (residue width n)
  refine ⟨_, write_integer_eq_ok.mpr ⟨n, Value.index?_of_asInt? hv, hr, rfl⟩, ?_⟩
  rw [padded_of_length hl, read_integer hl, heldInt_write hr, hw]

theorem lossless_integer (he : ∀ e ∈ members, e.IsIntValued) :
    (integer name signed width letter members).Lossless width order := by
  intro slot hl hk
  obtain ⟨hr, hw⟩ := write_heldInt signed order hl
  have hknown := (knows_integer_iff hl).mp hk
  rw [read_integer hl]
  cases hm : members.bind (·.find? (.int (heldInt signed width order slot))) with
  | none =>
    have hi : (Value.int (heldInt signed width order slot)).asInt? = _ := Value.asInt?_int _
    refine ⟨_, lookedUp_of_absent fun e hem => ⟨?_, hknown e hem⟩, ?_⟩
    · rwa [Option.mem_def.mp hem] at hm
    · exact write_integer_eq_ok.mpr
        ⟨_, Value.index?_of_asInt? (asInt?_unwrapped hi), hr, hw.symm⟩
  | some w =>
    obtain ⟨e, rfl, hf⟩ := Option.bind_eq_some_iff.mp hm
    obtain ⟨member, value, rfl, hv⟩ := (he e rfl).of_find? hf
    refine ⟨_, lookedUp_of_find? hf, ?_⟩
    rw [← unwrapped_member e member value] at hv
    exact write_integer_eq_ok.mpr ⟨_, Value.index?_of_asInt? hv, hr, hw.symm⟩

end Integer

/-! ## Bytes and bits -/

section Rows
variable {declared : Value} {n : Nat} {order : ByteOrder}

theorem write_bytes {v : Value} {b : Bytes} (hv : v.asBytes? = some b) (hl : b.length = n) :
    (bytes declared).write n v order = .ok b := by
  have hp : padded n (b.take n) = b := by
    rw [List.take_of_length_le (Nat.le_of_eq hl), padded_of_length hl]
  cases v with
  | bytes c | buffer c =>
    cases hv
    exact congrArg Except.ok hp
  | _ => cases hv

theorem carries_bytes {v : Value} {b : Bytes} (hv : v.asBytes? = some b) (hl : b.length = n) :
    (bytes declared).Carries n order v (.buffer b) := by
  refine ⟨b, write_bytes hv hl, ?_⟩
  rw [padded_of_length hl]
  rfl

theorem lossless_bytes : (bytes declared).Lossless n order :=
  fun slot hl _ => ⟨.buffer slot, rfl, write_bytes rfl hl⟩

theorem exists_eightfold {m : Int} (h : declared.asInt? = some m) :
    ∃ length?, eightfold declared = .ok length? := by
  cases declared with
  | bool | int | member => exact ⟨_, by simp only [eightfold, h]; rfl⟩
  | _ => cases h

theorem write_bits (hn : declared.asInt? = some (n : Int)) {v : Value} {row : Bits}
    (hv : v.asBits? = some row) (hl : row.length = 8 * n) :
    (bits declared).write n v order = .ok (order.arrangeBig (Bits.toBytes row)) := by
  obtain ⟨length?, h8⟩ := exists_eightfold hn
  have hi : v.asInt? = none := by
    cases v with
    | bits | bitBuffer => rfl
    | _ => cases hv
  have hb : (bits declared).bitsFor n v = .ok (some row) := by
    simp only [bitsFor, hi, hv]
    rfl
  have hl' : (row.length : Int) = 8 * n := by omega
  simp only [write, h8, hb, bind, Except.bind, if_pos hl']
  rfl

theorem carries_bits (hn : declared.asInt? = some (n : Int)) {v : Value} {row : Bits}
    (hv : v.asBits? = some row) (hl : row.length = 8 * n) :
    (bits declared).Carries n order v (.bitBuffer row) := by
  have hlen : (order.arrangeBig (Bits.toBytes row)).length = n := by
    rw [order.length_arrangeBig, Bits.length_toBytes hl]
  refine ⟨_, write_bits hn hv hl, ?_⟩
  simp only [padded_of_length hlen, read, order.arrangeBig_arrangeBig, Bits.ofBytes_toBytes hl]
  rfl

theorem lossless_bits (hn : declared.asInt? = some (n : Int)) :
    (bits declared).Lossless n order := by
  intro slot hl _
  have hlen : (Bits.ofBytes (order.arrangeBig slot)).length = 8 * n := by
    rw [Bits.length_ofBytes, order.length_arrangeBig, hl]
  refine ⟨_, rfl, ?_⟩
  rw [write_bits hn rfl hlen, Bits.toBytes_ofBytes, order.arrangeBig_arrangeBig]

end Rows

end Field

end ByteLayout
