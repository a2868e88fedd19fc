import ByteLayout.Proofs.Field.Membership
import ByteLayout.Proofs.Layout.Window
import ByteLayout.Proofs.Workspace

/-! # Warnings of a layout

Unpacking warns of the integers that no member is worth, once for each such field and in the order
of the fields, and keeps these warnings. Packing adds none to them.
-/
namespace ByteLayout

namespace Field
variable {field : Field} {n : Nat}

def IsInteger (field : Field) : Prop :=
  ∃ name format members text signed width, field = number name format members ∧
    format.IsOneInteger text signed width

theorem exists_decode_of_isInteger (hf : field.IsInteger) (hn : field.slotSize? = some n)
    {buffer : Bytes} {o : Nat} (hb : o + n ≤ buffer.length) {order : ByteOrder}
    (hk : field.Knows order ((buffer.drop o).take n)) :
    ∃ v, (field.decode (.bytes buffer) o order).result = .ok v := by
  obtain ⟨name, format, members, text, signed, width, rfl, hone⟩ := hf
  obtain ⟨before, after, hp⟩ := hone.exists_isPadded
  have hsize : (format.size : Int) = n := Option.some.inj (asInt?_declared hn).1
  obtain rfl : format.size = n := by omega
  have hplain := decode_number hp hb name order
  cases members with
  | none => exact ⟨_, congrArg Logged.result hplain⟩
  | some e =>
    rw [decode_enumerated, hplain, pure_bind]
    exact (hk _ (decode_padded hp buffer o order)).exists_decode

def Answers (field : Field) (n : Nat) : Prop :=
  field.BuiltIn ∨ field.IsInteger ∨ field.ReadsAny n

theorem Answers.exists_decode (hf : field.Answers n) (hn : field.slotSize? = some n)
    {buffer : Bytes} {o : Nat} (hb : o + n ≤ buffer.length) {order : ByteOrder}
    (hk : field.Knows order ((buffer.drop o).take n)) :
    ∃ v, (field.decode (.bytes buffer) o order).result = .ok v := by
  rcases hf with hf | hf | hf
  · exact exists_decode_of_knows hf hn hb hk
  · exact exists_decode_of_isInteger hf hn hb hk
  · exact hf buffer o order hb

end Field

namespace Layout
variable {layout : Layout}

theorem warnings_entryAt {order : ByteOrder} {buffer : Bytes} {o : Nat} {placed : Nat × Slot}
    (hm : placed.2.field.HasIntMembers) (hb : o + placed.1 + placed.2.size ≤ buffer.length)
    (hk : placed.2.field.Knows order ((buffer.drop (o + placed.1)).take placed.2.size))
    {entry : String × Value} (h : (entryAt order buffer o placed).result = .ok entry) :
    (entryAt order buffer o placed).warnings =
      (placed.2.field.missed? order ((buffer.drop (o + placed.1)).take placed.2.size)).toList := by
  obtain ⟨-, hd⟩ := result_entryAt_eq_ok_iff.mp h
  rw [entryAt, Logged.warnings_bind hd]
  rw [← Int.natCast_add] at hd ⊢
  rw [Field.warnings_decode hm placed.2.sized hb hk hd]
  exact List.append_nil _

theorem unpack_warnings {buffer : Bytes} {o : Int}
    (hf : ∀ slot ∈ layout.slots, slot.field.Answers slot.size)
    (hm : ∀ slot ∈ layout.slots, slot.field.HasIntMembers) (h0 : 0 ≤ o)
    (hb : o + layout.size ≤ buffer.length) (hk : layout.KnowsAt buffer o) :
    (∃ items, (layout.unpack buffer o).result = .ok items) ∧
    (layout.unpack buffer o).warnings = layout.placed.filterMap fun placed =>
      placed.2.field.missed? layout.order
        (slice buffer (o + placed.1) (o + placed.1 + placed.2.size)) := by
  obtain ⟨o, rfl⟩ := Int.eq_ofNat_of_zero_le h0
  have hfits : ∀ placed ∈ layout.placed, o + placed.1 + placed.2.size ≤ buffer.length := by
    intro placed hp
    obtain ⟨-, hle⟩ := le_of_mem_placed hp
    omega
  have hknows : ∀ placed ∈ layout.placed, placed.2.field.Knows layout.order
      ((buffer.drop (o + placed.1)).take placed.2.size) := by
    intro placed hp
    have hknown := hk placed hp
    rwa [← Int.natCast_add, slice_eq_take_drop] at hknown
  have hdecodes : ∀ placed ∈ layout.placed, ∃ v, (placed.2.field.decode (.bytes buffer)
      ((o + placed.1 : Nat) : Int) layout.order).result = .ok v := fun placed hp =>
    (hf placed.2 (le_of_mem_placed hp).1).exists_decode placed.2.sized (hfits placed hp)
      (hknows placed hp)
  have hentries : ∀ placed ∈ layout.placed, ∃ entry,
      (entryAt layout.order buffer o placed).result = .ok entry := by
    intro placed hp
    obtain ⟨v, hv⟩ := hdecodes placed hp
    exact ⟨(placed.2.name, v), result_entryAt_eq_ok_iff.mpr ⟨rfl, hv⟩⟩
  refine ⟨exists_unpack_of_decodes (by omega) fun placed hp _ => hdecodes placed hp, ?_⟩
  have hinside : o + layout.size ≤ buffer.length := by omega
  have hall : (layout.placed.mapM (entryAt layout.order buffer o)).warnings =
      layout.placed.filterMap fun placed => placed.2.field.missed? layout.order
        (slice buffer (o + placed.1) (o + placed.1 + placed.2.size)) := by
    rw [Logged.warnings_mapM hentries, List.filterMap_eq_flatMap_toList]
    apply List.flatMap_congr
    intro placed hp
    obtain ⟨entry, he⟩ := hentries placed hp
    rw [warnings_entryAt (hm placed.2 (le_of_mem_placed hp).1) (hfits placed hp)
      (hknows placed hp) he, ← Int.natCast_add, slice_eq_take_drop]
  obtain ⟨bs, hbs⟩ := Logged.exists_result_mapM hentries
  rw [unpack_of_inside hinside, ← hall, map_eq_pure_bind, Logged.warnings_bind hbs]
  exact List.append_nil _

end Layout

/-- An enumeration of integers changes no byte. Its declared members are what is read for the
integers that they are worth, the first of several, and are written as them; any other integer that
the enumeration has no answer of its own for is read as itself with a warning. A layout of such
fields warns in the order of its fields, and of nothing when it is packed. -/
theorem enumerations_transparent :
    (∀ {host : Enumeration.Host} {tag : EnumTag} {entries : List (String × Value)}
      {e : Enumeration}, Enumeration.declare host tag entries = .ok e →
      ∃ body, entries.foldlM (Enumeration.Body.add tag.name) .empty = .ok body ∧
        body.members.Sublist entries ∧
        ((∀ entry ∈ body.members, entry.2.isInt = true) →
          e.tag = tag ∧
          (body.members ≠ [] → body.other? Enumeration.missingName = none → ∀ v, e.Knows v) ∧
          ∀ {format : Format} {text : String} {signed : Bool} {width : Nat},
            format.IsOneInteger text signed width → ∀ name,
              ∃ before after, format.IsPadded before signed width after ∧
                (format.size = width → Format.extent before = 0 ∧ Format.extent after = 0) ∧
                (Field.number name format (some e)).LooksUp e body.members (Format.extent before)
                  signed width (Format.extent after))) ∧
    (∀ {layout : Layout} {buffer : Bytes} {o : Int},
      (∀ slot ∈ layout.slots, slot.field.Answers slot.size) →
      (∀ slot ∈ layout.slots, slot.field.HasIntMembers) →
      0 ≤ o → o + layout.size ≤ buffer.length → layout.KnowsAt buffer o →
      (∃ items, (layout.unpack buffer o).result = .ok items) ∧
      (layout.unpack buffer o).warnings = layout.placed.filterMap fun placed =>
        placed.2.field.missed? layout.order
          (slice buffer (o + placed.1) (o + placed.1 + placed.2.size))) ∧
    (∀ title entries, (Session.pack title entries).IsQuiet) ∧
    ∀ title, (Session.toBuffer title).IsQuiet :=
  ⟨Field.looksUp_of_declare, Layout.unpack_warnings, Session.quiet_pack, Session.quiet_toBuffer⟩

def gauge : Enumeration where
  tag := ⟨0, "Gauge", false⟩
  members := [("off", .int 0), ("on", .int 2)]
  aliases := [("idle", "off")]

def gaugeLayout : Layout where
  name := .ofString "Meter"
  order := .little
  slots := [⟨"state", .uint8 (some gauge), 1, rfl⟩, ⟨"rest", .bits (.int 4), 4, rfl⟩,
    ⟨"level", .int16 (some gauge), 2, rfl⟩]
  distinct := by decide

theorem declare_gauge : Enumeration.declare ⟨fun _ _ => .error (.bare .wrongType), none⟩
    ⟨0, "Gauge", false⟩ [("off", .int 0), ("idle", .bool false), ("on", .int 2)] = .ok gauge := by
  rfl

theorem answers_gaugeLayout : ∀ slot ∈ gaugeLayout.slots, slot.field.Answers slot.size := by
  intro slot hs
  simp only [gaugeLayout, List.mem_cons, List.not_mem_nil, or_false] at hs
  rcases hs with rfl | rfl | rfl
  · exact .inl (.integer ..)
  · exact .inl (.bits _)
  · exact .inl (.integer ..)

theorem hasIntMembers_gaugeLayout :
    ∀ slot ∈ gaugeLayout.slots, slot.field.HasIntMembers := by
  intro slot hs
  simp only [gaugeLayout, List.mem_cons, List.not_mem_nil, or_false] at hs
  rcases hs with rfl | rfl | rfl
  · exact (by decide : ∀ member ∈ gauge.members, member.2.isInt = true)
  · trivial
  · exact (by decide : ∀ member ∈ gauge.members, member.2.isInt = true)

theorem knowsAt_gaugeLayout (b : Bytes) (o : Int) : gaugeLayout.KnowsAt b o := by
  intro place hm
  simp only [Layout.placed, Layout.placedFrom, gaugeLayout, List.mem_cons, List.not_mem_nil,
    or_false] at hm
  rcases hm with rfl | rfl | rfl
  · exact fun v _ => Enumeration.knows_of_plain (fun _ => rfl) v
  · trivial
  · exact fun v _ => Enumeration.knows_of_plain (fun _ => rfl) v

/-- The first of two names of zero, and a layout with two integers that are no members. -/
theorem enumerations_transparent_gauge :
    (∃ kept, (Field.uint8 (some gauge)).decode (.bytes [9, 0]) 1 .little =
      pure (.member gauge.tag "off" kept)) ∧
    (∃ name kept, gauge.member? "idle" = some (.member gauge.tag name kept) ∧
      (Field.uint8 (some gauge)).encode [9, 9] 1 (.member gauge.tag name kept) .little =
        (Field.uint8 (some gauge)).encode [9, 9] 1 (.bool false) .little) ∧
    (∃ items, (gaugeLayout.unpack [9, 1, 5, 6, 7, 8, 0xFE, 0xFF] 1).result = .ok items) ∧
    (gaugeLayout.unpack [9, 1, 5, 6, 7, 8, 0xFE, 0xFF] 1).warnings =
      [⟨"Gauge", 1⟩, ⟨"Gauge", -2⟩] := by
  obtain ⟨hdeclared, hlayout, -, -⟩ := enumerations_transparent
  obtain ⟨body, hbody, -, hlooks⟩ := hdeclared declare_gauge
  obtain rfl : (⟨[("off", .int 0), ("idle", .bool false), ("on", .int 2)], [], []⟩ :
    Enumeration.Body) = body := Except.ok.inj hbody
  obtain ⟨-, -, hfields⟩ := hlooks (by decide)
  obtain ⟨before, after, -, hextent, hfield⟩ :=
    hfields ((isPadded_integer false 1 "B").isOneInteger "B" rfl) "UInt8"
  obtain ⟨hb, ha⟩ := hextent rfl
  rw [hb, ha] at hfield
  have hfirst : Enumeration.first? [("off", .int 0), ("idle", .bool false), ("on", .int 2)] 0 =
      some ("off", .int 0) := rfl
  obtain ⟨kept, -, hdecode⟩ := hfield.found .little
    (by decide : 1 + (0 + 1 + 0) ≤ ([9, 0] : Bytes).length) rfl hfirst
  obtain ⟨name, same, hmember, -, hencode⟩ := hfield.unwraps ("idle", .bool false) (by simp)
  have hinside : (1 : Int) + gaugeLayout.size ≤
      ([9, 1, 5, 6, 7, 8, 0xFE, 0xFF] : Bytes).length := by decide
  obtain ⟨hitems, hwarnings⟩ := hlayout answers_gaugeLayout hasIntMembers_gaugeLayout (by decide)
    hinside (knowsAt_gaugeLayout _ 1)
  refine ⟨⟨kept, hdecode⟩, ⟨name, same, hmember, hencode [9, 9] 1 .little⟩, hitems, ?_⟩
  rw [hwarnings]
  rfl

def ruledEntries : List (String × Value) := [("_missing_", .int 1), ("A", .int 2)]

/-- A rule of its own may refuse an integer, or answer with a member that the integer is not
worth. -/
theorem enumeration_answers :
    (∃ e, Enumeration.declare ⟨fun _ _ => .error (.bare .wrongType), none⟩ ⟨0, "E", false⟩
        ruledEntries = .ok e ∧
      (∀ member ∈ e.members, member.2.isInt = true ∧ member.2.asInt? ≠ some 1) ∧
      (Field.uint8 (some e)).decode (.bytes [1]) 0 .little = ⟨[], .error (.bare .wrongType)⟩) ∧
    ∃ e, Enumeration.declare ⟨fun _ _ => .ok (.member ⟨0, "E", false⟩ "A" (.int 2)), none⟩
        ⟨0, "E", false⟩ ruledEntries = .ok e ∧
      (∀ member ∈ e.members, member.2.isInt = true ∧ member.2.asInt? ≠ some 1) ∧
      (Field.uint8 (some e)).decode (.bytes [1]) 0 .little =
        ⟨[], .ok (.member ⟨0, "E", false⟩ "A" (.int 2))⟩ ∧
      (Field.uint8 (some e)).encode [1] 0 (.member ⟨0, "E", false⟩ "A" (.int 2)) .little =
        .ok [2] := by
  refine ⟨⟨_, rfl, ?_, rfl⟩, _, rfl, ?_, rfl, rfl⟩
  · decide
  · decide

end ByteLayout
