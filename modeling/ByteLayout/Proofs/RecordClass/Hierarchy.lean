import ByteLayout.Proofs.Layout.Definition
import ByteLayout.RecordClass

/-! # Hierarchies of classes

A class that is declared over others, they over others again, has the fields of all of them in
one row: those of its bases first, each base with the row that it has itself. Building the class
by its declaration and defining a layout of that row come to the same.
-/
namespace ByteLayout

namespace RecordClass

theorem entries_insert {items : Items Field} {name : String} (h : items.contains name = false)
    (field : Field) : (items.insert name field).entries = items.entries ++ [(name, field)] := by
  apply Items.putEntry_of_notMem
  intro hm
  obtain ⟨entry, he, rfl⟩ := List.mem_map.mp hm
  rw [Items.contains, Items.get?_of_mem items he] at h
  cases h

theorem contains_iff {items : Items Field} {name : String} :
    items.contains name = true ↔ name ∈ items.names := by
  rw [Items.contains, Option.isSome_iff_exists]
  constructor
  · rintro ⟨field, h⟩
    obtain ⟨before, after, hl, -⟩ := List.lookup_eq_some_iff.mp h
    rw [Items.names, hl]
    simp
  · intro h
    obtain ⟨entry, he, rfl⟩ := List.mem_map.mp h
    exact ⟨entry.2, Items.get?_of_mem items he⟩

/-- Fields of different names are taken as they are, and otherwise the first name that is there
already is refused. -/
theorem contribute_outcome (items : Items Field) (fields : List (String × Field)) :
    ((items.names ++ fields.map Prod.fst).Nodup ∧
      ∃ all, contribute items fields = .ok all ∧ all.entries = items.entries ++ fields) ∨
    ∃ before name field after, fields = before ++ (name, field) :: after ∧
      (items.names ++ before.map Prod.fst).Nodup ∧ name ∈ items.names ++ before.map Prod.fst ∧
      contribute items fields = .error (.plain .noAttribute (.fieldTwice name)) := by
  -- What has been taken so far is any items: their names stand before those to come.
  induction fields generalizing items with
  | nil =>
    left
    rw [List.map_nil, List.append_nil]
    exact ⟨items.distinct, items, rfl, (List.append_nil _).symm⟩
  | cons entry rest ih =>
    obtain ⟨name, field⟩ := entry
    rw [contribute]
    cases hc : items.contains name with
    | true =>
      right
      refine ⟨[], name, field, rest, rfl, ?_, ?_, rfl⟩
      · rw [List.map_nil, List.append_nil]
        exact items.distinct
      · rw [List.map_nil, List.append_nil]
        exact contains_iff.mp hc
    | false =>
      have hins := entries_insert hc field
      have hnames : ∀ more : List (String × Field), (items.insert name field).names ++
          more.map Prod.fst = items.names ++ ((name, field) :: more).map Prod.fst := by
        intro more
        rw [Items.names, hins, List.map_append, List.append_assoc]
        rfl
      rcases ih (items.insert name field) with h | h
      · left
        obtain ⟨hd, all, hall, he⟩ := h
        refine ⟨hnames rest ▸ hd, all, hall, ?_⟩
        rw [he, hins, List.append_assoc]
        rfl
      · right
        obtain ⟨before, twice, other, after, rfl, hd, hm, he⟩ := h
        exact ⟨(name, field) :: before, twice, other, after, rfl, hnames before ▸ hd,
          hnames before ▸ hm, he⟩

end RecordClass

inductive Hierarchy (α : Type) where
  /-- A class without fields that no declaration made. -/
  | root (cls : RecordClass α) (bare : cls.layout? = none)
  | declared (self : Ancestor α) (bases : List (Hierarchy α)) (fields : Items Field)
      (options : ClassOptions)

namespace Hierarchy
variable {α : Type}

mutual

def build : Hierarchy α → Except Fault (RecordClass α)
  | root cls _ => .ok cls
  | declared self bases fields options =>
    (buildAll bases).bind fun classes => RecordClass.declare self classes fields options

def buildAll : List (Hierarchy α) → Except Fault (List (RecordClass α))
  | [] => .ok []
  | base :: rest => base.build.bind fun cls => (buildAll rest).map (cls :: ·)

end

mutual

/-- The fields of the bases one base after the other, then the own ones. -/
def fields : Hierarchy α → List (String × Field)
  | root _ _ => []
  | declared _ bases fields _ => fieldsOfAll bases ++ fields.entries

def fieldsOfAll : List (Hierarchy α) → List (String × Field)
  | [] => []
  | base :: rest => base.fields ++ fieldsOfAll rest

end

mutual

def order : Hierarchy α → ByteOrder
  | root _ _ => .big
  | declared _ bases _ options =>
    (options.littleEndian?.map fun v => ByteOrder.ofFlag v.truthy).getD (firstOrder bases)

def firstOrder : List (Hierarchy α) → ByteOrder
  | [] => .big
  | base :: rest => if base.fields.isEmpty then firstOrder rest else base.order

end

def title : Hierarchy α → Value
  | root cls _ => .ofString cls.name
  | declared self _ _ options => options.name?.getD (.ofString self.name)

def Describes (h : Hierarchy α) (cls : RecordClass α) : Prop :=
  match cls.layout? with
  | none => h.fields = []
  | some layout => layout.fields.entries = h.fields ∧ layout.order = h.order ∧ h.fields ≠ []

section
variable {bases : List (Hierarchy α)} {classes : List (RecordClass α)}

/-- The layouts of the bases say of them what the bases say of themselves. -/
theorem parents_eq (h : List.Forall₂ Describes bases classes) :
    let parents := classes.filterMap RecordClass.layout?
    (parents.map fun parent => parent.fields.entries).flatten = fieldsOfAll bases ∧
      parents.isEmpty = (fieldsOfAll bases).isEmpty ∧
      (parents.head?.map (·.order)).getD .big = firstOrder bases := by
  induction h with
  | nil => exact ⟨rfl, rfl, rfl⟩
  | @cons base cls bases classes hd _ ih =>
    obtain ⟨hfields, hempty, horder⟩ := ih
    unfold Describes at hd
    cases hl : cls.layout? with
    | none =>
      rw [hl] at hd
      have hnone : base.fields.isEmpty = true := List.isEmpty_iff.mpr hd
      rw [List.filterMap_cons_none hl, fieldsOfAll, firstOrder, if_pos hnone, hd,
        List.nil_append]
      exact ⟨hfields, hempty, horder⟩
    | some layout =>
      rw [hl] at hd
      obtain ⟨hentries, horder', hne⟩ := hd
      have hsome : ¬base.fields.isEmpty = true := fun h => hne (List.isEmpty_iff.mp h)
      rw [List.filterMap_cons_some hl, fieldsOfAll, firstOrder, if_neg hsome, ← hentries, ← horder']
      refine ⟨?_, ?_, rfl⟩
      · rw [List.map_cons, List.flatten_cons, hfields]
      · obtain ⟨entry, rest, he⟩ := List.exists_cons_of_ne_nil (hentries ▸ hne)
        rw [he]
        rfl

variable {self : Ancestor α} {ancestors : List (Ancestor α)} {own : Items Field}
  {options : ClassOptions}

/-- The layout that the declaration asks for. -/
theorem layoutFor_eq (h : List.Forall₂ Describes bases classes) :
    RecordClass.layoutFor self.name (classes.filterMap RecordClass.layout?) own options =
      let d := declared self bases own options
      if d.fields = [] then .ok none
      else (RecordClass.contribute Items.empty d.fields).bind fun all =>
        (Layout.define d.title d.order all).map some := by
  obtain ⟨hfields, hempty, horder⟩ := parents_eq h
  dsimp only at hfields hempty horder ⊢
  rw [RecordClass.layoutFor, RecordClass.flattened, hfields, hempty, horder, fields, order, title]
  by_cases he : fieldsOfAll bases ++ own.entries = []
  · obtain ⟨hb, ho⟩ := List.append_eq_nil_iff.mp he
    rw [if_pos he, hb, ho]
    rfl
  · have hc : ¬((fieldsOfAll bases).isEmpty && own.entries.isEmpty) = true := by
      rw [Bool.and_eq_true, List.isEmpty_iff, List.isEmpty_iff]
      exact fun h => he (List.append_eq_nil_iff.mpr h)
    rw [if_neg he, if_neg hc]
    rfl

/-- Bases that cannot be bases of one class are refused, whatever is declared. -/
theorem build_of_conflict (hb : buildAll bases = .ok classes)
    (h : RecordClass.areCompatible classes = false ∨ RecordClass.ancestorsOf? classes = none) :
    (declared self bases own options).build = .error (.bare .wrongType) := by
  rw [build, hb]
  show RecordClass.declare self classes own options = _
  rw [RecordClass.declare]
  rcases h with hc | hm
  · rw [hc]
    rfl
  · rw [hm]
    exact ite_self _

theorem build_declared (hb : buildAll bases = .ok classes)
    (hc : RecordClass.areCompatible classes = true)
    (hm : RecordClass.ancestorsOf? classes = some ancestors) :
    (declared self bases own options).build =
      (RecordClass.layoutFor self.name (classes.filterMap RecordClass.layout?) own options).map
        fun layout? => ⟨self, ancestors, layout?⟩ := by
  rw [build, hb]
  show RecordClass.declare self classes own options = _
  rw [RecordClass.declare, hc, hm]
  cases RecordClass.layoutFor self.name (classes.filterMap RecordClass.layout?) own options <;> rfl

section
variable (hb : buildAll bases = .ok classes) (hall : List.Forall₂ Describes bases classes)
  (hc : RecordClass.areCompatible classes = true)
  (hm : RecordClass.ancestorsOf? classes = some ancestors)
include hb hall hc hm

/-- With fields of different names the declaration defines a layout of them. -/
theorem build_of_nodup (hne : (declared self bases own options).fields ≠ [])
    (distinct : ((declared self bases own options).fields.map Prod.fst).Nodup) :
    (declared self bases own options).build =
      (Layout.define (declared self bases own options).title
        (declared self bases own options).order ⟨_, distinct⟩).map
          fun layout => ⟨self, ancestors, some layout⟩ := by
  rcases RecordClass.contribute_outcome Items.empty (declared self bases own options).fields with
    ⟨-, all, hall', he⟩ | ⟨before, name, field, after, hsplit, -, htwice, -⟩
  · obtain rfl : all = ⟨_, distinct⟩ := Items.ext he
    rw [build_declared hb hc hm, layoutFor_eq hall]
    dsimp only
    rw [if_neg hne, hall']
    show Except.map _ (Except.map some _) = _
    cases Layout.define (declared self bases own options).title
      (declared self bases own options).order ⟨_, distinct⟩ <;> rfl
  · rw [hsplit, List.map_append, List.map_cons] at distinct
    exact absurd rfl ((List.nodup_append.mp distinct).2.2 _ htwice _ List.mem_cons_self)

theorem build_of_empty (hnil : (declared self bases own options).fields = []) :
    (declared self bases own options).build = .ok ⟨self, ancestors, none⟩ := by
  rw [build_declared hb hc hm, layoutFor_eq hall]
  dsimp only
  rw [if_pos hnil]
  rfl

/-- The first name that occurs for the second time is refused. -/
theorem build_of_repeated (h : ¬((declared self bases own options).fields.map Prod.fst).Nodup) :
    ∃ before name field after,
      (declared self bases own options).fields = before ++ (name, field) :: after ∧
        (before.map Prod.fst).Nodup ∧ name ∈ before.map Prod.fst ∧
        (declared self bases own options).build =
          .error (.plain .noAttribute (.fieldTwice name)) := by
  rcases RecordClass.contribute_outcome Items.empty (declared self bases own options).fields with
    ⟨hd, -⟩ | ⟨before, name, field, after, hsplit, hd, htwice, hrefused⟩
  · exact absurd hd h
  · refine ⟨before, name, field, after, hsplit, hd, htwice, ?_⟩
    have hne : (declared self bases own options).fields ≠ [] := by
      rw [hsplit]
      simp
    rw [build_declared hb hc hm, layoutFor_eq hall]
    dsimp only
    rw [if_neg hne, hrefused]
    rfl

end

/-- A class that could be built has what its declaration says. -/
theorem describes_declared (hb : buildAll bases = .ok classes)
    (hall : List.Forall₂ Describes bases classes) {cls : RecordClass α}
    (h : (declared self bases own options).build = .ok cls) :
    (declared self bases own options).Describes cls := by
  have hrefused {cls : RecordClass α} (h : (declared self bases own options).build = .ok cls) :
      RecordClass.areCompatible classes = true ∧ RecordClass.ancestorsOf? classes ≠ none := by
    refine ⟨eq_true_of_ne_false fun hc => ?_, fun hm => ?_⟩
    · rw [build_of_conflict hb (.inl hc)] at h
      cases h
    · rw [build_of_conflict hb (.inr hm)] at h
      cases h
  obtain ⟨hc, hm⟩ := hrefused h
  obtain ⟨ancestors, hm⟩ := Option.ne_none_iff_exists'.mp hm
  by_cases hnil : (declared self bases own options).fields = []
  · rw [build_of_empty hb hall hc hm hnil] at h
    obtain rfl := Except.ok.inj h
    exact hnil
  by_cases hd : ((declared self bases own options).fields.map Prod.fst).Nodup
  · rw [build_of_nodup hb hall hc hm hnil hd] at h
    cases hl : Layout.define (declared self bases own options).title
        (declared self bases own options).order ⟨_, hd⟩ with
    | error fault =>
      rw [hl] at h
      cases h
    | ok layout =>
      rw [hl] at h
      obtain rfl := Except.ok.inj h
      obtain ⟨-, horder, hfields⟩ := Layout.of_define hl
      exact ⟨hfields, horder, hnil⟩
  · obtain ⟨before, name, field, after, -, -, -, he⟩ := build_of_repeated hb hall hc hm hd
    rw [he] at h
    cases h

end

mutual

theorem describes_of_build : (h : Hierarchy α) → {cls : RecordClass α} → h.build = .ok cls →
    h.Describes cls
  | root cls bare, _, hb => by
    obtain rfl := Except.ok.inj hb
    rw [Describes, bare]
    rfl
  | declared self bases own options, cls, hb => by
    cases hclasses : buildAll bases with
    | error fault =>
      rw [build, hclasses] at hb
      cases hb
    | ok classes => exact describes_declared hclasses (describesAll_of_build bases hclasses) hb

theorem describesAll_of_build : (bases : List (Hierarchy α)) → {classes : List (RecordClass α)} →
    buildAll bases = .ok classes → List.Forall₂ Describes bases classes
  | [], _, hb => by
    obtain rfl := Except.ok.inj hb
    exact .nil
  | base :: rest, classes, hb => by
    cases hcls : base.build with
    | error fault =>
      rw [buildAll, hcls] at hb
      cases hb
    | ok cls =>
      cases hrest : buildAll rest with
      | error fault =>
        rw [buildAll, hcls, hrest] at hb
        cases hb
      | ok more =>
        rw [buildAll, hcls, hrest] at hb
        obtain rfl := Except.ok.inj hb
        exact .cons (describes_of_build base hcls) (describesAll_of_build rest hrest)

end

end Hierarchy

end ByteLayout
