import ByteLayout.Workspace.Records

/-! # The library in a workspace

What a session does with objects that nobody has tampered with is what the library does with their
values: unpacking and packing go to the layout, writing back to the record. Only decoding warns.
-/

namespace ByteLayout.Session
variable {α β : Type}

def IsQuiet (x : Session α) : Prop := ∀ w : Workspace, (x.run.run w).2.warnings = w.warnings

theorem quiet_pure (a : α) : IsQuiet (pure a : Session α) := fun _ => rfl

theorem quiet_get : IsQuiet (get : Session Workspace) := fun _ => rfl

theorem quiet_throw (fault : Fault) : IsQuiet (throw fault : Session α) := fun _ => rfl

theorem quiet_allocate (cell : Cell) : IsQuiet (allocate cell) := fun _ => rfl

theorem quiet_ofResult (result : Except Fault α) : IsQuiet (ofResult result) := by
  intro w
  cases result <;> rfl

theorem IsQuiet.bind {x : Session α} {f : α → Session β} (hx : IsQuiet x)
    (hf : ∀ a, IsQuiet (f a)) : IsQuiet (x >>= f) := by
  intro w
  have hw := hx w
  rw [ExceptT.run_bind, StateT.run_bind]
  cases hr : x.run.run w with
  | mk result w' =>
    rw [hr] at hw
    cases result with
    | error fault => exact hw
    | ok a => exact (hf a w').trans hw

theorem IsQuiet.bindOption {x : Session (Option α)} {f : Option α → Session β} (hx : IsQuiet x)
    (hsome : ∀ a, IsQuiet (f (some a))) (hnone : IsQuiet (f none)) : IsQuiet (x >>= f) := by
  refine hx.bind fun found? => ?_
  cases found? with
  | some a => exact hsome a
  | none => exact hnone

theorem IsQuiet.map {x : Session α} (hx : IsQuiet x) (f : α → β) : IsQuiet (f <$> x) := by
  rw [map_eq_pure_bind]
  exact hx.bind fun a => quiet_pure (f a)

theorem IsQuiet.ite {p : Prop} [Decidable p] {x y : Session α} (hx : IsQuiet x) (hy : IsQuiet y) :
    IsQuiet (if p then x else y) := by
  split
  · exact hx
  · exact hy

theorem IsQuiet.check {p : Prop} [Decidable p] {kind : PlainFault} {rest : Unit → Session α}
    (hrest : IsQuiet (rest ())) : IsQuiet (if p then fail kind >>= rest else rest ()) :=
  IsQuiet.ite ((quiet_throw _).bind fun _ => hrest) hrest

theorem IsQuiet.mapM {f : α → Session β} {row : List α} (hf : ∀ a ∈ row, IsQuiet (f a)) :
    IsQuiet (row.mapM f) := by
  induction row with
  | nil => exact quiet_pure []
  | cons a rest ih =>
    rw [List.mapM_cons]
    obtain ⟨hfirst, hrest⟩ := List.forall_mem_cons.mp hf
    exact hfirst.bind fun b => (ih hrest).bind fun bs => quiet_pure _

mutual

theorem quiet_hold (v : Value) : IsQuiet (hold v) := by
  unfold hold
  split
  · exact (quiet_allocate _).map _
  · exact (quiet_allocate _).map _
  · next items => exact (quiet_holdAll items).bind fun held => (quiet_allocate _).map _
  · next entries => exact (quiet_holdEntries entries).bind fun held => (quiet_allocate _).map _
  · exact quiet_pure _
  · exact IsQuiet.ite (quiet_pure _) ((quiet_allocate _).map _)

theorem quiet_holdAll (items : List Value) : IsQuiet (holdAll items) := by
  cases items with
  | nil =>
    unfold holdAll
    exact quiet_pure _
  | cons v rest =>
    unfold holdAll
    exact (quiet_hold v).bind fun h => (quiet_holdAll rest).bind fun more => quiet_pure _

theorem quiet_holdEntries (entries : List (Value × Value)) : IsQuiet (holdEntries entries) := by
  cases entries with
  | nil =>
    unfold holdEntries
    exact quiet_pure _
  | cons entry rest =>
    obtain ⟨key, v⟩ := entry
    unfold holdEntries
    exact (quiet_hold key).bind fun k => (quiet_hold v).bind fun h =>
      (quiet_holdEntries rest).bind fun more => quiet_pure _

end

theorem quiet_value (h : Handle) : IsQuiet (value h) := quiet_get.bind fun _ => quiet_pure _

theorem quiet_cell? (h : Handle) : IsQuiet (cell? h) := quiet_get.bind fun _ => quiet_pure _

theorem quiet_valuesOf (items : Items Handle) : IsQuiet (valuesOf items) :=
  quiet_get.bind fun _ => quiet_pure _

theorem quiet_named (title : String) : IsQuiet (named title) := by
  refine quiet_get.bind fun w => ?_
  split
  · exact quiet_pure _
  · exact quiet_throw _

theorem quiet_memberOf (h : Handle) (name : String) : IsQuiet (memberOf h name) := by
  refine (quiet_cell? h).bind fun cell => ?_
  dsimp only
  split
  · exact (quiet_pure _).bindOption (fun found => quiet_pure _) (quiet_throw _)
  · exact (quiet_pure _).bindOption (fun found => quiet_pure _) (quiet_throw _)
  · exact (quiet_throw _).bindOption (fun found => quiet_pure _) (quiet_throw _)

theorem quiet_addEntry (entries : List (Handle × Handle)) (key v : Handle) :
    IsQuiet (addEntry entries key v) := by
  refine (quiet_value key).bind fun found => ?_
  apply IsQuiet.check
  exact quiet_get.bind fun w => quiet_pure _

mutual

theorem quiet_realise (literal : Literal) : IsQuiet (realise literal) := by
  unfold realise
  split
  · exact IsQuiet.ite (quiet_hold _) (quiet_throw _)
  · next items => exact (quiet_realiseAll items).bind fun held => (quiet_allocate _).map _
  · next entries =>
    exact (quiet_realiseEntries [] entries).bind fun held => (quiet_allocate _).map _
  · exact (quiet_named _).bind fun h => quiet_memberOf h _
  · exact quiet_named _

theorem quiet_realiseAll (items : List Literal) : IsQuiet (realiseAll items) := by
  cases items with
  | nil =>
    unfold realiseAll
    exact quiet_pure _
  | cons item rest =>
    unfold realiseAll
    exact (quiet_realise item).bind fun h => (quiet_realiseAll rest).bind fun more => quiet_pure _

theorem quiet_realiseEntries (sofar : List (Handle × Handle)) (entries : List (Literal × Literal)) :
    IsQuiet (realiseEntries sofar entries) := by
  cases entries with
  | nil =>
    unfold realiseEntries
    exact quiet_pure _
  | cons entry rest =>
    obtain ⟨key, v⟩ := entry
    unfold realiseEntries
    exact (quiet_realise key).bind fun k => (quiet_realise v).bind fun h =>
      (quiet_addEntry sofar k h).bind fun next => quiet_realiseEntries next rest

end

theorem quiet_realiseItems (entries : List (String × Literal)) :
    IsQuiet (realiseItems entries) := by
  refine IsQuiet.bind (IsQuiet.mapM fun entry _ => ?_) fun held => quiet_pure _
  exact (quiet_realise entry.2).bind fun h => quiet_pure _

theorem quiet_layoutAt (id : Nat) : IsQuiet (layoutAt id) := by
  refine quiet_get.bind fun w => ?_
  split
  · exact (quiet_value _).bind fun _ => quiet_pure _
  · exact quiet_throw _

theorem quiet_classLayout? (cls : RecordClass Handle) : IsQuiet (classLayout? cls) := by
  refine quiet_get.bind fun w => ?_
  split <;> exact quiet_pure _

theorem quiet_classCallee (cls : RecordClass Handle) (operation : String) :
    IsQuiet (classCallee cls operation) := by
  unfold classCallee
  split
  · exact quiet_pure _
  · exact quiet_pure _
  · exact quiet_throw _

theorem quiet_callee (title operation : String) : IsQuiet (callee title operation) := by
  refine (quiet_named title).bind fun h => (quiet_cell? h).bind fun cell => ?_
  split
  · exact quiet_pure _
  · exact quiet_classCallee _ _
  · exact IsQuiet.ite (quiet_pure _) (quiet_throw _)
  · split
    · exact quiet_pure _
    · exact quiet_classCallee _ _
    · exact quiet_pure _
    · exact quiet_throw _
  · exact quiet_throw _

theorem quiet_calledLayout (callee : Callee) : IsQuiet (calledLayout callee) := by
  unfold calledLayout
  split
  · exact quiet_layoutAt _
  · apply IsQuiet.check
    refine (quiet_classLayout? _).bind fun id? => ?_
    split
    · exact quiet_layoutAt _
    · exact quiet_throw _
  · exact quiet_throw _

theorem quiet_packWith (target : Target) (items : Items Value) :
    IsQuiet (packWith target items) := by
  have hpack := quiet_ofResult (target.layout.packWithin target.size items.get?)
  unfold packWith
  apply IsQuiet.check
  refine IsQuiet.ite ?_ hpack
  refine quiet_get.bind fun w => ?_
  apply IsQuiet.check
  exact IsQuiet.ite (IsQuiet.check (IsQuiet.check hpack)) hpack

/-- Packing the values that are written down gives no warning, whatever they are and whether or not
it fails. -/
theorem quiet_pack (title : String) (entries : List (String × Literal)) :
    IsQuiet (pack title entries) := by
  refine (quiet_realiseItems entries).bind fun held => (quiet_valuesOf held).bind fun items => ?_
  refine (quiet_callee title _).bind fun callee => (quiet_calledLayout callee).bind fun target => ?_
  exact quiet_packWith target items

theorem quiet_recordFor (title operation : String) : IsQuiet (recordFor title operation) := by
  refine (quiet_named title).bind fun h => (quiet_cell? h).bind fun cell => ?_
  split
  · exact quiet_pure _
  · exact quiet_throw _
  · exact (quiet_value h).bind fun _ => quiet_throw _

theorem quiet_needOperation (held : Held) (operation : String) :
    IsQuiet (needOperation held operation) := by
  unfold needOperation
  apply IsQuiet.check
  split
  · exact quiet_pure _
  · exact quiet_throw _
  · apply IsQuiet.check
    exact quiet_throw _

theorem quiet_packRecord (target : Target) (r : StoredRecord) :
    IsQuiet (packRecord target r) := by
  refine (quiet_valuesOf r.items).bind fun items => ?_
  have hpack := quiet_packWith target items
  dsimp only
  split
  · apply IsQuiet.check
    exact IsQuiet.ite ((quiet_throw _).bind fun _ => hpack) hpack
  · exact hpack

theorem quiet_toBuffer (title : String) : IsQuiet (toBuffer title) := by
  refine (quiet_recordFor title _).bind fun held => ?_
  refine (quiet_needOperation held _).bind fun _ => ?_
  exact (quiet_layoutAt _).bind fun target => quiet_packRecord target held.stored

/-! ## What has not been tampered with -/

/-- What comes of a run is what comes of the rest in the workspace that the first step has left. -/
theorem run_bind_of_ok {x : Session α} {f : α → Session β} {w w' : Workspace} {a : α}
    (h : x.run.run w = (.ok a, w')) : (x >>= f).run.run w = (f a).run.run w' := by
  rw [ExceptT.run_bind, StateT.run_bind, h]
  rfl

section Plain
variable {target : Target} {w : Workspace} (h : target.ones = [])
include h

theorem size_of_plain : target.size = target.layout.size := by
  rw [Target.size, Target.isOne, h]
  rfl

theorem isOne_of_plain (part : String) : target.isOne part = false := by
  rw [Target.isOne, h]
  rfl

/-- Packing is packing with the layout, where there is memory for it. -/
theorem run_packWith (hw : target.layout.size < w.machine.memory) (items : Items Value) :
    (packWith target items).run.run w = (target.layout.pack items.get?, w) := by
  have hpack : (ofResult (target.layout.packWithin target.layout.size items.get?)).run.run w =
      (target.layout.pack items.get?, w) := by
    rw [Layout.pack]
    cases target.layout.packWithin target.layout.size items.get? <;> rfl
  unfold packWith
  simp only [isOne_of_plain h, size_of_plain h, Bool.or_self, Bool.false_eq_true, if_false]
  split
  · show (if w.machine.memory ≤ target.layout.size then _ else _ : Session Bytes).run.run w = _
    rw [if_neg (Nat.not_le_of_lt hw), ite_self]
    exact hpack
  · exact hpack

theorem run_packRecord (hw : target.layout.size < w.machine.memory) {r : StoredRecord}
    (hc : r.cls.hides "__contains__" = false) (hg : r.cls.hides "__getitem__" = false) :
    (packRecord target r).run.run w =
      (target.layout.pack (r.items.map (w.value (w.cells.size + 1) [])).get?, w) := by
  have hvalues : (valuesOf r.items).run.run w =
      (.ok (r.items.map (w.value (w.cells.size + 1) [])), w) := rfl
  unfold packRecord
  rw [run_bind_of_ok hvalues]
  simp only [hc, hg, Bool.false_and, Bool.false_eq_true, if_false]
  split <;> exact run_packWith h hw _

/-- Unpacking is unpacking with the layout, whose warnings are kept, and making a record. -/
theorem unpackWith_of_plain (bytes : Bytes) (o : Int) :
    unpackWith target bytes (.int o) =
      (ofLogged (target.layout.unpack bytes o) >>= hatch target) := by
  unfold unpackWith
  simp only [isOne_of_plain h, size_of_plain h, Bool.or_self, Bool.false_and, Bool.false_eq_true,
    if_false]
  have hat : target.layout.unpackAt target.layout.size bytes (.int o) =
      target.layout.unpack bytes o := by
    unfold Layout.unpackAt Layout.unpack Layout.unpackWithin Layout.checkRange
    simp only [Value.asInt?_int]
    by_cases hb : 0 ≤ o ∧ o + target.layout.size ≤ bytes.length
    · simp only [if_pos hb, decide_eq_true hb]
      rfl
    · simp only [if_neg hb, decide_eq_false hb]
      rfl
  rw [hat]
  by_cases hb : 0 ≤ o ∧ o + target.layout.size ≤ bytes.length
  · have hrange : target.layout.checkRange target.layout.size bytes (.int o) = .ok () := by
      simp only [Layout.checkRange, Value.asInt?_int, decide_eq_true hb]
    rw [hrange]
    rfl
  · have hrange : target.layout.checkRange target.layout.size bytes (.int o) =
        .error (target.layout.outside target.layout.size bytes (.int o)) := by
      simp only [Layout.checkRange, Value.asInt?_int, decide_eq_false hb]
    have hunpack : target.layout.unpack bytes o =
        .ofResult (.error (target.layout.outside target.layout.size bytes (.int o))) :=
      if_neg hb
    rw [hrange, hunpack]
    funext w
    show (Except.error _, w) = (Except.error _, { w with warnings := w.warnings ++ [] })
    rw [List.append_nil]

end Plain

/-- A record of the workspace that its name leads to, with all its operations and a layout that is
as it was declared. -/
structure IsIntact (w : Workspace) (title : String) (id : Nat) (r : StoredRecord)
    (l : StoredLayout) : Prop where
  named : w.names.get? title = some (.cell id)
  stored : w.cells[id]? = some (.record r)
  laidOut : w.cells[r.layoutId]? = some (.layout l)
  own : r.extras.get? "to_buffer" = none
  operates : r.cls.attribute? "to_buffer" = some .operation
  contains : r.cls.hides "__contains__" = false
  gives : r.cls.hides "__getitem__" = false
  plain : l.ones = []

def recordOf (w : Workspace) (r : StoredRecord) (l : StoredLayout) : Record Value :=
  let valueOf := w.value (w.cells.size + 1) []
  Record.map valueOf ⟨r.cls, { l.layout with name := valueOf l.name }, r.items, r.extras⟩

section Intact
variable {w : Workspace} {title : String} {id : Nat} {r : StoredRecord} {l : StoredLayout}
  (h : IsIntact w title id r l)
include h

theorem run_recordFor (operation : String) :
    (recordFor title operation).run.run w = (.ok ⟨r, id⟩, w) := by
  have hget : (get : Session Workspace).run.run w = (.ok w, w) := rfl
  have hnamed : (named title).run.run w = (.ok (.cell id), w) := by
    unfold named
    rw [run_bind_of_ok hget, h.named]
    rfl
  have hcell : (cell? (.cell id)).run.run w = (.ok (some (.record r)), w) := by
    rw [← h.stored]
    rfl
  unfold recordFor
  rw [run_bind_of_ok hnamed, run_bind_of_ok hcell]
  rfl

theorem run_needOperation :
    (needOperation ⟨r, id⟩ "to_buffer").run.run w = (.ok (), w) := by
  unfold needOperation
  rw [h.own, h.operates]
  rfl

theorem run_layoutAt : (layoutAt r.layoutId).run.run w =
    (.ok ⟨(recordOf w r l).layout, l.cls, r.layoutId, l.ones⟩, w) := by
  have hget : (get : Session Workspace).run.run w = (.ok w, w) := rfl
  unfold layoutAt
  rw [run_bind_of_ok hget, h.laidOut]
  rfl

/-- Writing back is writing the record back, where there is memory for its bytes. -/
theorem run_toBuffer (hw : l.layout.size < w.machine.memory) :
    (toBuffer title).run.run w = ((recordOf w r l).toBuffer, w) := by
  unfold toBuffer
  rw [run_bind_of_ok (run_recordFor h _), run_bind_of_ok (run_needOperation h),
    run_bind_of_ok (run_layoutAt h)]
  exact run_packRecord h.plain hw h.contains h.gives

end Intact

end ByteLayout.Session
