import ByteLayout.Logged
import Mathlib.Data.List.Forall2

/-! # Runs of logged steps

Steps are run one after the other, up to the first that fails. A run is taken apart into its
steps: one that succeeds has a result for each of them, one that fails has got to a step that
does.
-/
namespace ByteLayout.Logged
variable {α β : Type}

theorem ext {x y : Logged α} (hw : x.warnings = y.warnings) (hr : x.result = y.result) :
    x = y := by
  cases x
  cases y
  cases hw
  cases hr
  rfl

instance : LawfulMonad Logged := LawfulMonad.mk' Logged
  (by
    rintro α ⟨warnings, _ | a⟩
    · rfl
    · exact ext (List.append_nil warnings) rfl)
  (fun _ _ => rfl)
  (by
    rintro α β γ ⟨warnings, _ | a⟩ f g
    · rfl
    · simp only [Bind.bind, Logged.bind]
      cases (f a).result with
      | error fault => rfl
      | ok b => simp only [List.append_assoc])

theorem result_bind_eq_ok_iff {x : Logged α} {f : α → Logged β} {b : β} :
    (x >>= f).result = .ok b ↔ ∃ a, x.result = .ok a ∧ (f a).result = .ok b := by
  rcases x with ⟨warnings, fault | a⟩
  · constructor
    · intro h
      cases h
    · rintro ⟨a, h, -⟩
      cases h
  · constructor
    · intro h
      exact ⟨a, rfl, h⟩
    · rintro ⟨a', h, hf⟩
      cases h
      exact hf

theorem result_bind_eq_error_iff {x : Logged α} {f : α → Logged β} {fault : Fault} :
    (x >>= f).result = .error fault ↔
      x.result = .error fault ∨ ∃ a, x.result = .ok a ∧ (f a).result = .error fault := by
  rcases x with ⟨warnings, raised | a⟩
  · constructor
    · intro h
      obtain rfl : raised = fault := Except.error.inj h
      exact Or.inl rfl
    · rintro (h | ⟨a, h, -⟩)
      · obtain rfl : raised = fault := Except.error.inj h
        rfl
      · cases h
  · constructor
    · intro h
      exact Or.inr ⟨a, rfl, h⟩
    · rintro (h | ⟨a', h, hf⟩)
      · cases h
      · cases h
        exact hf

theorem warnings_bind {x : Logged α} {f : α → Logged β} {a : α} (h : x.result = .ok a) :
    (x >>= f).warnings = x.warnings ++ (f a).warnings := by
  rcases x with ⟨warnings, fault | b⟩
  · cases h
  · obtain rfl := Except.ok.inj h
    rfl

theorem result_map_eq_ok_iff {x : Logged α} {f : α → β} {b : β} :
    (f <$> x).result = .ok b ↔ ∃ a, x.result = .ok a ∧ f a = b := by
  rw [map_eq_pure_bind, result_bind_eq_ok_iff]
  constructor
  · rintro ⟨a, ha, hb⟩
    exact ⟨a, ha, Except.ok.inj hb⟩
  · rintro ⟨a, ha, rfl⟩
    exact ⟨a, ha, rfl⟩

theorem map_eq_self {x : Logged α} {f : α → α} (h : ∀ a, x.result = .ok a → f a = a) :
    f <$> x = x := by
  rcases x with ⟨warnings, _ | a⟩
  · rfl
  · refine ext (List.append_nil warnings) ?_
    exact congrArg Except.ok (h a rfl)

theorem mapM_congr {f g : α → Logged β} {l : List α} (h : ∀ a ∈ l, f a = g a) :
    l.mapM f = l.mapM g := by
  induction l with
  | nil => rfl
  | cons a rest ih =>
    have hrest := ih fun x hx => h x (List.mem_cons_of_mem _ hx)
    rw [List.mapM_cons, List.mapM_cons, h a List.mem_cons_self, hrest]

/-- A row of steps that succeeds has one result for each. -/
theorem result_mapM_eq_ok_iff {f : α → Logged β} {l : List α} {bs : List β} :
    (l.mapM f).result = .ok bs ↔ List.Forall₂ (fun a b => (f a).result = .ok b) l bs := by
  induction l generalizing bs with
  | nil =>
    rw [List.mapM_nil, List.forall₂_nil_left_iff]
    constructor
    · intro h
      exact (Except.ok.inj h).symm
    · rintro rfl
      rfl
  | cons a rest ih =>
    rw [List.mapM_cons, List.forall₂_cons_left_iff, result_bind_eq_ok_iff]
    constructor
    · rintro ⟨b, hb, h⟩
      obtain ⟨more, hm, h⟩ := result_bind_eq_ok_iff.mp h
      exact ⟨b, more, hb, ih.mp hm, (Except.ok.inj h).symm⟩
    · rintro ⟨b, more, hb, hm, rfl⟩
      exact ⟨b, hb, result_bind_eq_ok_iff.mpr ⟨more, ih.mpr hm, rfl⟩⟩

theorem exists_of_result_mapM {f : α → Logged β} {l : List α} {bs : List β}
    (h : (l.mapM f).result = .ok bs) {a : α} (ha : a ∈ l) : ∃ b ∈ bs, (f a).result = .ok b := by
  have hall := result_mapM_eq_ok_iff.mp h
  clear h
  induction hall with
  | nil => exact absurd ha List.not_mem_nil
  | @cons first b rest more hb _ ih =>
    rcases List.mem_cons.mp ha with rfl | ha
    · exact ⟨b, List.mem_cons_self, hb⟩
    · obtain ⟨b', hm, hb'⟩ := ih ha
      exact ⟨b', List.mem_cons_of_mem _ hm, hb'⟩

/-- A row of steps that fails has one that does, behind some that succeed. -/
theorem result_mapM_eq_error_iff {f : α → Logged β} {l : List α} {fault : Fault} :
    (l.mapM f).result = .error fault ↔ ∃ before a after, l = before ++ a :: after ∧
      (∀ x ∈ before, ∃ b, (f x).result = .ok b) ∧ (f a).result = .error fault := by
  induction l with
  | nil =>
    constructor
    · intro h
      cases h
    · rintro ⟨before, a, after, h, -⟩
      exact absurd h.symm (List.append_ne_nil_of_right_ne_nil _ (List.cons_ne_nil _ _))
  | cons first rest ih =>
    rw [List.mapM_cons, result_bind_eq_error_iff]
    constructor
    · rintro (h | ⟨b, hb, h⟩)
      · exact ⟨[], first, rest, rfl, fun x hx => absurd hx List.not_mem_nil, h⟩
      · rcases result_bind_eq_error_iff.mp h with h | ⟨more, -, h⟩
        · obtain ⟨before, a, after, rfl, hbefore, ha⟩ := ih.mp h
          refine ⟨first :: before, a, after, rfl, ?_, ha⟩
          intro x hx
          rcases List.mem_cons.mp hx with rfl | hx
          · exact ⟨b, hb⟩
          · exact hbefore x hx
        · cases h
    · rintro ⟨before, a, after, hl, hbefore, ha⟩
      cases before with
      | nil =>
        obtain ⟨rfl, -⟩ := List.cons.inj hl
        exact Or.inl ha
      | cons x more =>
        obtain ⟨rfl, rfl⟩ := List.cons.inj hl
        obtain ⟨b, hb⟩ := hbefore first List.mem_cons_self
        have hrest := ih.mpr ⟨more, a, after, rfl,
          fun y hy => hbefore y (List.mem_cons_of_mem _ hy), ha⟩
        exact Or.inr ⟨b, hb, result_bind_eq_error_iff.mpr (Or.inl hrest)⟩

theorem exists_result_mapM {f : α → Logged β} {l : List α}
    (h : ∀ a ∈ l, ∃ b, (f a).result = .ok b) : ∃ bs, (l.mapM f).result = .ok bs := by
  cases hr : (l.mapM f).result with
  | ok bs => exact ⟨bs, rfl⟩
  | error fault =>
    obtain ⟨before, a, after, rfl, -, ha⟩ := result_mapM_eq_error_iff.mp hr
    obtain ⟨b, hb⟩ := h a (List.mem_append_right _ List.mem_cons_self)
    rw [ha] at hb
    cases hb

/-- The warnings of a row of steps that succeeds are those of each, in order. -/
theorem warnings_mapM {f : α → Logged β} {l : List α} (h : ∀ a ∈ l, ∃ b, (f a).result = .ok b) :
    (l.mapM f).warnings = l.flatMap fun a => (f a).warnings := by
  induction l with
  | nil => rfl
  | cons a rest ih =>
    obtain ⟨b, hb⟩ := h a List.mem_cons_self
    have hrest : ∀ x ∈ rest, ∃ b, (f x).result = .ok b := fun x hx =>
      h x (List.mem_cons_of_mem _ hx)
    obtain ⟨bs, hbs⟩ := exists_result_mapM hrest
    rw [List.mapM_cons, List.flatMap_cons, warnings_bind hb, warnings_bind hbs, ih hrest]
    exact congrArg _ (List.append_nil _)

/-- The results of numbered steps, each in the place of its number. -/
theorem result_mapM_range_eq_ok_iff {f : Nat → Logged β} {n : Nat} {bs : List β} :
    ((List.range n).mapM f).result = .ok bs ↔
      bs.length = n ∧ ∀ i < n, ∃ b, bs[i]? = some b ∧ (f i).result = .ok b := by
  rw [result_mapM_eq_ok_iff, List.forall₂_iff_get]
  simp only [List.length_range, List.get_eq_getElem, List.getElem_range]
  constructor
  · rintro ⟨rfl, h⟩
    exact ⟨rfl, fun i hi => ⟨bs[i], List.getElem?_eq_getElem hi, h i hi hi⟩⟩
  · rintro ⟨rfl, h⟩
    refine ⟨rfl, fun i _ hi => ?_⟩
    obtain ⟨b, hb, hf⟩ := h i hi
    rw [List.getElem?_eq_getElem hi] at hb
    obtain rfl := Option.some.inj hb
    exact hf

/-- The first numbered step that fails, by induction on their number. -/
theorem result_mapM_range_eq_error_iff {f : Nat → Logged β} {n : Nat} {fault : Fault} :
    ((List.range n).mapM f).result = .error fault ↔
      ∃ i < n, (∀ j < i, ∃ b, (f j).result = .ok b) ∧ (f i).result = .error fault := by
  induction n with
  | zero =>
    constructor
    · intro h
      cases h
    · rintro ⟨i, hi, -⟩
      exact absurd hi (Nat.not_lt_zero i)
  | succ n ih =>
    have hlast : ([n].mapM f).result = .error fault ↔ (f n).result = .error fault := by
      rw [List.mapM_cons, result_bind_eq_error_iff]
      constructor
      · rintro (h | ⟨b, -, h⟩)
        · exact h
        · cases h
      · exact Or.inl
    rw [List.range_succ, List.mapM_append, result_bind_eq_error_iff, ih]
    constructor
    · rintro (⟨i, hi, hbefore, hfault⟩ | ⟨bs, hbs, h⟩)
      · exact ⟨i, by omega, hbefore, hfault⟩
      · rcases result_bind_eq_error_iff.mp h with h | ⟨more, -, h⟩
        · refine ⟨n, by omega, ?_, hlast.mp h⟩
          intro j hj
          obtain ⟨b, -, hb⟩ := exists_of_result_mapM hbs (List.mem_range.mpr hj)
          exact ⟨b, hb⟩
        · cases h
    · rintro ⟨i, hi, hbefore, hfault⟩
      rcases Nat.lt_succ_iff_lt_or_eq.mp hi with hi | rfl
      · exact Or.inl ⟨i, hi, hbefore, hfault⟩
      · obtain ⟨bs, hbs⟩ := exists_result_mapM fun j hj =>
          hbefore j (List.mem_range.mp hj)
        exact Or.inr ⟨bs, hbs, result_bind_eq_error_iff.mpr (Or.inl (hlast.mpr hfault))⟩

end ByteLayout.Logged
