import ByteLayout.Layout.Pack
import ByteLayout.Proofs.Field.RoundTrip
import ByteLayout.Proofs.Text.Decoded

/-! # Values that their own field takes back

Whatever a built-in field has read it can write, but for a text and for what an enumeration has
answered: a replacement character has no place in ASCII, a strict field refuses a text that is
longer written than it was to read, and the member that the rule of an enumeration gives may have
a value that is out of range.
-/
namespace ByteLayout

def TextShape.refusal? (shape : TextShape) (encoding : Encoding) (budget : Value) (n : Nat)
    (raw : Bytes) : Option Fault :=
  if encoding = .ascii ∧ ∃ b ∈ raw, 0x80 ≤ b.toNat then some (.unplaced .unworded)
  else
    let length := (encoding.mark ++ encoding.body (encoding.decode raw)).length
    if shape.strict = true ∧ n < length then some (.unplaced (.textTooLong length budget)) else none

theorem TextShape.encode_text {shape : TextShape} {encoding : Encoding}
    (hk : shape.findEncoding = .ok encoding) (name : String) {budget : Value} {n : Nat}
    (hn : budget.asInt? = some (n : Int)) (t : Text) :
    shape.encode name (.text t) budget =
      match encoding.encode? t with
      | none => .error (.bare .unencodable)
      | some full =>
        if shape.strict = true ∧ n < full.length then
          .error (.unplaced (.textTooLong full.length budget))
        else .ok (full.take n) := by
  unfold encode
  cases hr : encoding.encode? t with
  | none =>
    simp only [hk, hr, bind, Except.bind, pure, Except.pure]
    rfl
  | some full =>
    simp only [hk, hr, hn, exceeds_eq hn, slice_zero, bind, Except.bind, pure, Except.pure,
      Bool.and_eq_true, decide_eq_true_eq]
    split <;> rfl

def Fault.IsToldAs (fault other : Fault) : Prop :=
  ∀ layoutName fieldName, fault.inField layoutName fieldName = other.inField layoutName fieldName

/-- Something is written, unless there is a fault to refuse it with: then that fault is told. -/
def WrittenUnless (refusal? : Option Fault) (result : Except Fault Bytes) : Prop :=
  match refusal? with
  | none => ∃ bytes, result = .ok bytes
  | some refusal => ∃ fault, result = .error fault ∧ fault.IsToldAs refusal

theorem WrittenUnless.map {refusal? : Option Fault} {result : Except Fault Bytes}
    (h : WrittenUnless refusal? result) (f : Bytes → Bytes) :
    WrittenUnless refusal? (result.map f) := by
  cases refusal? with
  | none =>
    obtain ⟨bytes, rfl⟩ := h
    exact ⟨f bytes, rfl⟩
  | some refusal =>
    obtain ⟨fault, rfl, hfault⟩ := h
    exact ⟨fault, rfl, hfault⟩

/-- A text that was read is written unless it is refused. -/
theorem TextShape.encode_decode {shape : TextShape} {encoding : Encoding}
    (hk : shape.findEncoding = .ok encoding) (name : String) {budget : Value} {n : Nat}
    (hn : budget.asInt? = some (n : Int)) (raw : Bytes) :
    WrittenUnless (shape.refusal? encoding budget n raw)
      (shape.encode name (.text (encoding.decode raw)) budget) := by
  rw [encode_text hk name hn, refusal?]
  by_cases ha : encoding = .ascii ∧ ∃ b ∈ raw, 0x80 ≤ b.toNat
  · obtain ⟨rfl, b, hb, hhigh⟩ := ha
    have hnot : Encoding.ascii.encode? (Encoding.ascii.decode raw) = none := by
      rw [Option.eq_none_iff_forall_not_mem]
      intro full hfull
      have hcov := (Encoding.encode?_eq_some.mp hfull).1
      exact Nat.not_lt_of_le hhigh (Encoding.covers_decode_ascii_iff.mp hcov b hb)
    rw [if_pos ⟨rfl, b, hb, hhigh⟩, hnot]
    exact ⟨_, rfl, fun _ _ => rfl⟩
  · have hcov : encoding.Covers (encoding.decode raw) := by
      by_cases he : encoding = .ascii
      · subst he
        refine Encoding.covers_decode_ascii_iff.mpr fun b hb => Nat.lt_of_not_le fun hhigh => ?_
        exact ha ⟨rfl, b, hb, hhigh⟩
      · exact Encoding.covers_decode he raw
    rw [if_neg ha, Encoding.encode?_of_covers hcov]
    dsimp only
    split
    · exact ⟨_, rfl, fun _ _ => rfl⟩
    · exact ⟨_, rfl⟩

namespace Field

def HasIntMembers (field : Field) : Prop :=
  match field with
  | number _ _ (some e) => e.IsIntValued
  | _ => True

def intRefusal? (signed : Bool) (width : Nat) (v : Value) : Option Fault :=
  match v.index? with
  | some (.ok i) => if Code.inRange signed width i then none else some (.unplaced .unworded)
  | some (.error kind) => some (refuseFormat (.bare kind))
  | none => some (.unplaced .unworded)

/-- Why a field refuses what it has read in its slot. Only texts are refused, and what the rule of
an enumeration has answered for an integer that no member has. -/
def refusal? (field : Field) (order : ByteOrder) (n : Nat) (slot : Bytes) : Option Fault :=
  match field with
  | number _ ⟨_, [⟨.integer signed width, 1⟩]⟩ (some e) =>
    let i := Value.int (heldInt signed width order slot)
    match e.find? i, e.lookup i with
    | none, .ok w => intRefusal? signed width (unwrapped (some e) w)
    | _, _ => none
  | string shape =>
    match shape.findEncoding with
    | .ok encoding => shape.refusal? encoding shape.size n slot
    | .error _ => none
  | cstring shape =>
    shape.toTextShape.refusal? shape.encoding (.int (shape.room n)) (shape.room n)
      (beforeZeroUnit shape.encoding.unit slot.length slot)
  | _ => none

section
variable {n : Nat} {order : ByteOrder} {slot : Bytes} {v : Value}

theorem write_integer_unless {name letter : String} {signed : Bool} {width : Nat}
    {members : Option Enumeration} (order : ByteOrder) (v : Value) :
    WrittenUnless (intRefusal? signed width (unwrapped members v))
      ((integer name signed width letter members).write width v order) := by
  simp only [integer, write, encode_integer, Code.encode, Value.withIndex, intRefusal?]
  cases (unwrapped members v).index? with
  | none => exact ⟨_, rfl, fun _ _ => rfl⟩
  | some index =>
    cases index with
    | error kind => exact ⟨_, rfl, fun _ _ => rfl⟩
    | ok i =>
      dsimp only
      split
      · exact ⟨_, rfl⟩
      · exact ⟨_, rfl, fun _ _ => rfl⟩

theorem intRefusal?_of_inRange {signed : Bool} {width : Nat} {i : Int} (hi : v.asInt? = some i)
    (hr : Code.inRange signed width i = true) : intRefusal? signed width v = none := by
  rw [intRefusal?, Value.index?_of_asInt? hi]
  exact if_pos hr

/-- What the integer in a slot was looked up as is written, unless the enumeration has answered
with what is not. -/
theorem write_lookedUp {name letter : String} {signed : Bool} {width : Nat}
    {members : Option Enumeration} (hm : ∀ e ∈ members, e.IsIntValued) (hl : slot.length = width)
    (h : (lookedUp members (heldInt signed width order slot)).result = .ok v) :
    WrittenUnless ((integer name signed width letter members).refusal? order width slot)
      ((integer name signed width letter members).write width v order) := by
  have hr := (write_heldInt signed order hl).1
  have hwritten : ∀ refusal?, (integer name signed width letter members).refusal? order width
      slot = refusal? → intRefusal? signed width (unwrapped members v) = refusal? →
      WrittenUnless ((integer name signed width letter members).refusal? order width slot)
        ((integer name signed width letter members).write width v order) := by
    rintro refusal? h1 h2
    rw [h1, ← h2]
    exact write_integer_unless order v
  cases members with
  | none =>
    obtain rfl := Except.ok.inj h
    exact hwritten none rfl (intRefusal?_of_inRange rfl hr)
  | some e =>
    cases hf : e.find? (.int (heldInt signed width order slot)) with
    | some w =>
      rw [lookedUp_of_find? hf] at h
      obtain rfl := Except.ok.inj h
      obtain ⟨member, value, rfl, hv⟩ := (hm e rfl).of_find? hf
      rw [← unwrapped_member e member value] at hv
      refine hwritten none ?_ (intRefusal?_of_inRange hv hr)
      simp only [integer, refusal?, hf]
    | none =>
      cases hlook : e.lookup (.int (heldInt signed width order slot)) with
      | ok w =>
        rw [lookedUp, Enumeration.decode_of_lookup hlook] at h
        obtain rfl := Except.ok.inj h
        refine hwritten _ ?_ rfl
        simp only [integer, refusal?, hf, hlook]
      | error fault =>
        cases hb : fault.isBadValue with
        | true =>
          rw [lookedUp, Enumeration.decode_of_bad hlook hb] at h
          obtain rfl := Except.ok.inj h
          refine hwritten none ?_ (intRefusal?_of_inRange rfl hr)
          simp only [integer, refusal?, hf, hlook]
        | false =>
          rw [lookedUp, Enumeration.decode_of_fault hlook hb] at h
          cases h

/-- A field takes back what it has read, or refuses it for the reason that is given. -/
theorem write_of_read {field : Field} (hf : field.BuiltIn) (hm : field.HasIntMembers)
    (hn : field.slotSize? = some n) (hl : slot.length = n)
    (h : (field.read order slot).result = .ok v) :
    WrittenUnless (field.refusal? order n slot) (field.write n v order) := by
  cases hf with
  | integer name signed width letter members =>
    obtain rfl := width_eq hn
    rw [read_integer hl] at h
    refine write_lookedUp (fun e he => ?_) hl h
    obtain rfl := Option.mem_def.mp he
    exact hm
  | bytes size =>
    obtain rfl := Except.ok.inj h
    exact ⟨slot, write_bytes rfl hl⟩
  | bits size =>
    obtain rfl := Except.ok.inj h
    refine ⟨_, write_bits (asInt?_declared hn).1 rfl ?_⟩
    rw [Bits.length_ofBytes, order.length_arrangeBig, hl]
  | string shape encoding known =>
    rw [read_string known] at h
    obtain rfl := Except.ok.inj h
    have he := TextShape.encode_decode known "String" (asInt?_declared hn).1 slot
    simp only [refusal?, known]
    exact he.map (padded n)
  | cstring shape =>
    obtain rfl := Except.ok.inj h
    rw [write_cstring_eq (TerminatedShape.hasRoom hn)]
    exact (TextShape.encode_decode shape.known "CString" (Value.asInt?_int (shape.room n)) _).map _

end

end Field

end ByteLayout
