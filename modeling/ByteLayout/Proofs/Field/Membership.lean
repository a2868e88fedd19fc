import ByteLayout.Proofs.Enumeration
import ByteLayout.Proofs.Field.PaddedInteger
import ByteLayout.Proofs.Field.TakenBack
import ByteLayout.Proofs.Logged

/-! # Integers with an enumeration

An enumeration changes what an integer is read as, and not what is written for it: the bytes are
those that the same number has without one. The only warning that reading gives is that of an
integer that no member is worth.
-/
namespace ByteLayout.Field

/-- A number whose integers are looked up among some declared members, with pads around them. -/
structure LooksUp (field : Field) (e : Enumeration) (declared : List (String × Value)) (lead : Nat)
    (signed : Bool) (width tail : Nat) : Prop where
  found : ∀ {buffer : Bytes} {o : Nat} (order : ByteOrder),
    o + (lead + width + tail) ≤ buffer.length → ∀ {n : Int},
      n = heldInt signed width order ((buffer.drop (o + lead)).take width) →
      ∀ {name : String} {v : Value}, Enumeration.first? declared n = some (name, v) →
        ∃ kept, kept.asInt? = some n ∧
          field.decode (.bytes buffer) o order = pure (.member e.tag name kept)
  missed : ∀ {buffer : Bytes} {o : Nat} (order : ByteOrder),
    o + (lead + width + tail) ≤ buffer.length → ∀ {n : Int},
      n = heldInt signed width order ((buffer.drop (o + lead)).take width) →
      Enumeration.first? declared n = none → e.Knows (.int n) →
        field.decode (.bytes buffer) o order = ⟨[⟨e.tag.name, n⟩], .ok (.int n)⟩
  restores : ∀ {buffer : Bytes} {o : Nat} (order : ByteOrder),
    o + (lead + width + tail) ≤ buffer.length →
      e.Knows (.int (heldInt signed width order ((buffer.drop (o + lead)).take width))) →
      ∀ {v : Value}, (field.decode (.bytes buffer) o order).result = .ok v →
        ∀ {buffer' : Bytes} {o' : Nat}, o' + (lead + width + tail) ≤ buffer'.length →
          ∃ written, field.encode buffer' o' v order = .ok written ∧
            ChangedWithin o' (lead + width + tail) buffer' written ∧
            (written.drop o').take (lead + width + tail) = List.replicate lead 0 ++
              (buffer.drop (o + lead)).take width ++ List.replicate tail 0
  unwraps : ∀ entry ∈ declared, ∃ name kept,
    e.member? entry.1 = some (.member e.tag name kept) ∧ kept.asInt? = entry.2.asInt? ∧
      ∀ (buffer : Bytes) (o : Int) (order : ByteOrder),
        field.encode buffer o (.member e.tag name kept) order =
          field.encode buffer o entry.2 order

theorem decode_enumerated (name : String) (format : Format) (e : Enumeration) (row : Row) (o : Int)
    (order : ByteOrder) :
    (number name format (some e)).decode row o order =
      (number name format none).decode row o order >>= e.decode := rfl

theorem encode_enumerated (name : String) (format : Format) (e : Enumeration) (buffer : Bytes)
    (o : Int) (v : Value) (order : ByteOrder) :
    (number name format (some e)).encode buffer o v order =
      (number name format none).encode buffer o (unwrapped (some e) v) order := rfl

section Padded
variable {format : Format} {before after : List FormatItem} {signed : Bool} {width : Nat}
  {e : Enumeration} {declared : List (String × Value)}

/-- Values of one worth are written alike, wherever that is tried. -/
theorem encode_number_congr (h : format.IsPadded before signed width after) (name : String)
    {v w : Value} (hv : v.index? = w.index?) (buffer : Bytes) (o : Int) (order : ByteOrder) :
    (number name format none).encode buffer o v order =
      (number name format none).encode buffer o w order := by
  have he : format.encode order v = format.encode order w := by
    rw [h.encode, h.encode]
    simp only [Code.encode, Value.withIndex, hv]
  simp only [encode, encodeNumber, putNumber, he]

/-- What an integer is read as is worth it, unless the enumeration has answered for itself. -/
theorem asInt?_of_decode (he : e.IsIntValued) {n : Int} (hk : e.Knows (.int n)) {v : Value}
    (h : (e.decode (.int n)).result = .ok v) : (unwrapped (some e) v).asInt? = some n := by
  cases hf : e.find? (.int n) with
  | some w =>
    rw [Enumeration.decode_of_find? hf] at h
    obtain rfl := Except.ok.inj h
    obtain ⟨member, value, rfl, hv⟩ := he.of_find? hf
    rwa [unwrapped_member]
  | none =>
    rw [hk.decode_of_absent hf] at h
    obtain rfl := Except.ok.inj h
    exact asInt?_unwrapped (Value.asInt?_int n)

theorem looksUp_number (h : format.IsPadded before signed width after) (hw : 0 < width)
    (he : e.Holds declared) (hi : ∀ entry ∈ declared, entry.2.isInt = true) (name : String) :
    (number name format (some e)).LooksUp e declared (Format.extent before) signed width
      (Format.extent after) where
  found {buffer o} order hb n hn title v hf := by
    rw [← h.size] at hb
    obtain ⟨kept, hfind, hkept⟩ := he.exists_find? hf
    refine ⟨kept, hkept, ?_⟩
    rw [decode_enumerated, decode_number h hb, pure_bind, ← hn, Enumeration.decode_of_find? hfind]
  missed {buffer o} order hb n hn hf hk := by
    rw [← h.size] at hb
    rw [decode_enumerated, decode_number h hb, pure_bind, ← hn]
    exact hk.decode_of_absent (he.find?_eq_none hf)
  restores {buffer o} order hb hk v hv buffer' o' hb' := by
    have hl : ((buffer.drop (o + Format.extent before)).take width).length = width :=
      length_take_drop (by omega)
    obtain ⟨hr, hwrite⟩ := write_heldInt signed order hl
    rw [write_residue] at hwrite
    rw [decode_enumerated, decode_number h (h.size ▸ hb), pure_bind] at hv
    have hindex := Value.index?_of_asInt? (asInt?_of_decode he.isInt hk hv)
    obtain ⟨written, hencode, hchanged, hslot, -⟩ :=
      (codesInt_number h hw name).accepts hindex ((inRange_iff_holdsInt hw).mp hr) order hb'
    rw [hwrite] at hslot
    exact ⟨written, hencode, hchanged, hslot⟩
  unwraps entry hm := by
    obtain ⟨n, hn⟩ := Option.isSome_iff_exists.mp (hi entry hm)
    obtain ⟨title, kept, hmember, hkept, -⟩ := he.member?_eq hm hn
    refine ⟨title, kept, hmember, hkept.trans hn.symm, ?_⟩
    intro buffer o order
    rw [encode_enumerated, encode_enumerated, unwrapped_member]
    apply encode_number_congr h
    rw [Value.index?_of_asInt? hkept, Value.index?_of_asInt? (asInt?_unwrapped hn)]

theorem extents_eq_zero (h : format.IsPadded before signed width after)
    (hs : format.size = width) : Format.extent before = 0 ∧ Format.extent after = 0 := by
  have hsize := h.size
  omega

end Padded

/-- Every number of one integer looks its integers up among the members of a declaration. -/
theorem looksUp_of_declare {host : Enumeration.Host} {tag : EnumTag}
    {entries : List (String × Value)} {e : Enumeration}
    (h : Enumeration.declare host tag entries = .ok e) :
    ∃ body, entries.foldlM (Enumeration.Body.add tag.name) .empty = .ok body ∧
      body.members.Sublist entries ∧
      ((∀ entry ∈ body.members, entry.2.isInt = true) →
        e.tag = tag ∧
        (body.members ≠ [] → body.other? Enumeration.missingName = none → ∀ v, e.Knows v) ∧
        ∀ {format : Format} {text : String} {signed : Bool} {width : Nat},
          format.IsOneInteger text signed width → ∀ name,
            ∃ before after, format.IsPadded before signed width after ∧
              (format.size = width → Format.extent before = 0 ∧ Format.extent after = 0) ∧
              (number name format (some e)).LooksUp e body.members (Format.extent before) signed
                width (Format.extent after)) := by
  obtain ⟨body, hbody, hsub, hholds⟩ := Enumeration.exists_holds_of_declare h
  refine ⟨body, hbody, hsub, fun hi => ?_⟩
  obtain ⟨he, htag, hmissing⟩ := hholds hi
  have hknows (hm : body.members ≠ []) (hn : body.other? Enumeration.missingName = none) :
      ∀ v, e.Knows v :=
    Enumeration.knows_of_plain fun v => by rw [hmissing, Enumeration.Body.rule_of_plain hm hn]
  refine ⟨htag, hknows, fun {format text signed width} hone name => ?_⟩
  obtain ⟨before, after, hp⟩ := hone.exists_isPadded
  have hm : ⟨.integer signed width, 1⟩ ∈ format.items := hp.items ▸ List.mem_append_cons_self
  obtain ⟨letter, -, hentry⟩ := hone.exists_letter hm Nat.one_ne_zero
  exact ⟨before, after, hp, extents_eq_zero hp,
    looksUp_number hp (integerLetters_pos hentry) he hi name⟩

/-! ## Warnings -/

def missed? (field : Field) (order : ByteOrder) (slot : Bytes) : Option Warning :=
  match field with
  | number _ format (some e) =>
    ((format.decode order slot).toOption.bind Value.asInt?).bind fun n =>
      if (Enumeration.first? e.members n).isSome then none else some ⟨e.tag.name, n⟩
  | _ => none

/-- What an enumeration knows it tells of with no other warning than that of a missing integer. -/
theorem warnings_enumeration {e : Enumeration} (hm : e.IsIntValued) {v w : Value}
    (hk : e.Knows v) (h : (e.decode v).result = .ok w) :
    (e.decode v).warnings = (v.asInt?.bind fun n =>
      if (Enumeration.first? e.members n).isSome then none
      else some (⟨e.tag.name, n⟩ : Warning)).toList := by
  cases hfind : e.find? v with
  | some member =>
    rw [Enumeration.decode_of_find? hfind]
    cases hv : v.asInt? with
    | none => rfl
    | some n =>
      rw [Enumeration.find?_eq hm hv, Option.map_eq_some_iff] at hfind
      obtain ⟨entry, hfirst, -⟩ := hfind
      simp only [Option.bind_some, hfirst, Option.isSome_some, if_true]
      rfl
  | none =>
    rcases hk with hs | ⟨fault, hl, hb⟩
    · rw [hfind] at hs
      cases hs
    have hwarn : e.decode v = e.warn v := by
      rw [Enumeration.decode, hl]
      exact if_pos hb
    rw [hwarn] at h ⊢
    cases hv : v.asInt? with
    | some n =>
      rw [Enumeration.find?_eq hm hv, Option.map_eq_none_iff] at hfind
      simp only [Enumeration.warn, hv, Option.bind_some, hfind]
      rfl
    | none =>
      -- a value that is no integer cannot be told in a warning
      have hrefused : ∃ fault, e.warn v = .ofResult (.error fault) := by
        unfold Enumeration.warn
        rw [hv]
        cases v <;> exact ⟨_, rfl⟩
      obtain ⟨other, hother⟩ := hrefused
      rw [hother] at h
      cases h

theorem warnings_decode {field : Field} (hm : field.HasIntMembers) {n : Nat}
    (hn : field.slotSize? = some n) {buffer : Bytes} {o : Nat} (hb : o + n ≤ buffer.length)
    {order : ByteOrder} (hk : field.Knows order ((buffer.drop o).take n)) {v : Value}
    (h : (field.decode (.bytes buffer) o order).result = .ok v) :
    (field.decode (.bytes buffer) o order).warnings =
      (field.missed? order ((buffer.drop o).take n)).toList := by
  cases field with
  | number name format members =>
    cases members with
    | none => rfl
    | some e =>
      have hsize : (format.size : Int) = n := Option.some.inj (asInt?_declared hn).1
      obtain rfl : format.size = n := by omega
      have hplain : (number name format none).decode (.bytes buffer) o order =
          .ofResult (format.decode order ((buffer.drop o).take format.size)) :=
        congrArg Logged.ofResult (decodeNumber_eq hb order)
      rw [decode_enumerated, hplain] at h ⊢
      cases hd : format.decode order ((buffer.drop o).take format.size) with
      | error fault =>
        rw [hd] at h
        cases h
      | ok w =>
        rw [hd] at h
        simp only [missed?, hd]
        exact warnings_enumeration hm (hk w hd) h
  | _ => rfl

end ByteLayout.Field
