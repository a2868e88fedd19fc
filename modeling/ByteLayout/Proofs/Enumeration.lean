import ByteLayout.Items
import ByteLayout.Proofs.Field.Carries

/-! # Declared enumerations

A declaration is read member by member. What has been made of the members so far finds for an
integer the first of them that is worth it, and every name that was declared is that of the member
that is found for its value.
-/
namespace ByteLayout

theorem exists_of_bind_eq_ok {α β : Type} {x : Except Fault α} {f : α → Except Fault β} {b : β}
    (h : (x >>= f) = .ok b) : ∃ a, x = .ok a ∧ f a = .ok b := by
  cases x with
  | error fault => cases h
  | ok a => exact ⟨a, rfl, h⟩

/-- What holds at first, and is kept at each place of a row, holds at its end. -/
theorem keeps_of_foldlM {α β : Type} {f : β → α → Except Fault β} {row : List α}
    {P : List α → β → Prop}
    (step : ∀ {before a after b b'}, row = before ++ a :: after → P before b → f b a = .ok b' →
      P (before ++ [a]) b')
    {b b' : β} (h : row.foldlM f b = .ok b') (h0 : P [] b) : P row b' := by
  have hrun : ∀ after before b, row = before ++ after → after.foldlM f b = .ok b' → P before b →
      P row b' := by
    intro after
    induction after with
    | nil =>
      intro before b hrow h hb
      obtain rfl := Except.ok.inj h
      rwa [hrow, List.append_nil]
    | cons a after ih =>
      intro before b hrow h hb
      rw [List.foldlM_cons] at h
      cases ha : f b a with
      | error fault =>
        rw [ha] at h
        cases h
      | ok middle =>
        rw [ha] at h
        have hrest : row = (before ++ [a]) ++ after := by
          rw [hrow, List.append_assoc, List.singleton_append]
        exact ih _ middle hrest h (step hrow hb ha)
  exact hrun row [] b rfl h h0

namespace Enumeration

def first? (entries : List (String × Value)) (n : Int) : Option (String × Value) :=
  entries.find? fun entry => entry.2.asInt? == some n

theorem first?_append (entries more : List (String × Value)) (n : Int) :
    first? (entries ++ more) n = (first? entries n).or (first? more n) := List.find?_append

theorem of_first? {entries : List (String × Value)} {n : Int} {entry : String × Value}
    (h : first? entries n = some entry) : entry ∈ entries ∧ entry.2.asInt? = some n := by
  have hworth := List.find?_some h
  exact ⟨List.mem_of_find?_eq_some h, eq_of_beq hworth⟩

theorem first?_singleton (entry : String × Value) (n : Int) :
    first? [entry] n = if entry.2.asInt? = some n then some entry else none := by
  by_cases h : entry.2.asInt? = some n
  · rw [first?, List.find?_singleton, if_pos (beq_iff_eq.mpr h), if_pos h]
  · rw [first?, List.find?_singleton, if_neg (mt eq_of_beq h), if_neg h]

section LookedUp
variable {e : Enumeration} {v : Value} {n : Int}

theorem sameKey_of_asInt? {a b : Value} {m : Int} (ha : a.asInt? = some m)
    (hb : b.asInt? = some n) : Value.sameKey a b = (m == n) := by
  have hkey : ∀ {c : Value} {k : Int}, c.asInt? = some k → c.isKey = true ∧ c.asBits? = none := by
    intro c k hc
    cases c with
    | bool | int | member => exact ⟨rfl, rfl⟩
    | _ => cases hc
  obtain ⟨ka, ra⟩ := hkey ha
  obtain ⟨kb, rb⟩ := hkey hb
  rw [Value.sameKey, ka, kb, ra, rb, Value.equal_of_asInt? ha hb]
  rfl

theorem sameKey_of_isInt {a : Value} (ha : a.isInt = true) (hv : v.asInt? = some n) :
    Value.sameKey a v = (a.asInt? == some n) := by
  obtain ⟨m, hm⟩ := Option.isSome_iff_exists.mp ha
  rw [sameKey_of_asInt? hm hv, hm]
  rfl

/-- Looking an integer up is looking for the first member of that worth. -/
theorem find?_eq (hi : ∀ member ∈ e.members, member.2.isInt = true) (hv : v.asInt? = some n) :
    e.find? v = (first? e.members n).map fun member => .member e.tag member.1 member.2 := by
  have hfind : ∀ members : List (String × Value), (∀ member ∈ members, member.2.isInt = true) →
      members.find? (fun member => Value.sameKey member.2 v) = first? members n := by
    intro members hmembers
    induction members with
    | nil => rfl
    | cons member rest ih =>
      obtain ⟨hm, hrest⟩ := List.forall_mem_cons.mp hmembers
      rw [first?, List.find?_cons, List.find?_cons, sameKey_of_isInt hm hv, ih hrest]
      rfl
  rw [find?, hfind e.members hi]

/-- A member is given by its name only, whatever it is worth. -/
theorem member?_of_mem (hd : (e.members.map Prod.fst).Nodup) {name : String} {kept : Value}
    (hm : (name, kept) ∈ e.members) {other : String}
    (ha : (e.aliases.lookup other).getD other = name) :
    e.member? other = some (.member e.tag name kept) := by
  rw [member?, ha, Items.lookup_of_mem hd hm]
  rfl

end LookedUp

/-! ## One member after the other -/

structure Holds (e : Enumeration) (done : List (String × Value)) : Prop where
  isInt : ∀ member ∈ e.members, member.2.isInt = true
  distinct : (e.members.map Prod.fst).Nodup
  named : ∀ name, name ∈ e.members.map Prod.fst ∨ name ∈ e.aliases.map Prod.fst →
    name ∈ done.map Prod.fst
  /-- Of the same worth the first that was declared is the member. -/
  first : ∀ n, (first? e.members n).map Prod.fst = (first? done n).map Prod.fst
  /-- The name of a declared integer is one of the member found for it. -/
  called : ∀ entry ∈ done, ∀ n, entry.2.asInt? = some n →
    ∃ member, first? e.members n = some member ∧
      (e.aliases.lookup entry.1).getD entry.1 = member.1

theorem holds_nil (tag : EnumTag) (missing : Value → Except Fault Value) :
    Holds ⟨tag, [], [], missing⟩ [] where
  isInt _ hm := nomatch hm
  distinct := List.nodup_nil
  named _ hn := nomatch hn
  first _ := rfl
  called _ hm := nomatch hm

theorem integral_of_asInt? {v : Value} {n : Int} (hv : v.asInt? = some n) :
    integral v = .ok (.int n) := by
  cases v with
  | bool | int | member =>
    rw [integral]
    · exact Value.withIndex_of_asInt? hv .wrongType _
    all_goals nofun
  | _ => cases hv

theorem equalMember?_eq {v : Value} {n : Int} (hv : v.asInt? = some n)
    {members : List (String × Value)} (hi : ∀ member ∈ members, member.2.isInt = true) :
    equalMember? v members = .ok ((first? members n).map Prod.fst) := by
  have hkey : v.isKey = true := by
    cases v with
    | bool | int | member => rfl
    | _ => cases hv
  induction members with
  | nil => rfl
  | cons member rest ih =>
    obtain ⟨hm, hrest⟩ := List.forall_mem_cons.mp hi
    rw [equalMember?, if_pos hkey, sameKey_of_isInt hm hv, first?, List.find?_cons]
    cases member.2.asInt? == some n with
    | true => rfl
    | false => exact ih hrest

/-- A member is added, or another name for the member that is worth the same. -/
theorem add_cases {e e' : Enumeration} {entry : String × Value} {n : Int}
    (hi : ∀ member ∈ e.members, member.2.isInt = true) (hv : entry.2.asInt? = some n)
    (h : e.add entry = .ok e') :
    (∃ member, first? e.members n = some member ∧
      e' = { e with aliases := e.aliases ++ [(entry.1, member.1)] }) ∨
    (first? e.members n = none ∧ ∃ kept, kept.asInt? = some n ∧
      e' = { e with members := e.members ++ [(entry.1, kept)] }) := by
  obtain ⟨kept, hkept, hadd⟩ : ∃ kept : Value, kept.asInt? = some n ∧
      ∀ found?, equalMember? kept e.members = .ok found? →
        e' = found?.elim { e with members := e.members ++ [(entry.1, kept)] } fun name =>
          { e with aliases := e.aliases ++ [(entry.1, name)] } := by
    rw [add] at h
    split at h
    · rw [integral_of_asInt? hv] at h
      refine ⟨.int n, rfl, fun found? hfound => ?_⟩
      simp only [bind, Except.bind, hfound] at h
      cases found? <;> exact (Except.ok.inj h).symm
    · refine ⟨entry.2, hv, fun found? hfound => ?_⟩
      simp only [bind, Except.bind, pure, Except.pure, hfound] at h
      cases found? <;> exact (Except.ok.inj h).symm
  have he := hadd _ (equalMember?_eq hkept hi)
  cases hf : first? e.members n with
  | some member =>
    rw [hf] at he
    exact .inl ⟨member, rfl, he⟩
  | none =>
    rw [hf] at he
    exact .inr ⟨rfl, kept, hkept, he⟩

theorem lookup_eq_none {β : Type} {entries : List (String × β)} {name : String}
    (h : name ∉ entries.map Prod.fst) : entries.lookup name = none := by
  rw [List.lookup_eq_none_iff]
  intro entry hm
  rw [bne_iff_ne]
  rintro rfl
  exact h (List.mem_map_of_mem hm)

theorem lookup_append_singleton_of_ne {β : Type} (entries : List (String × β)) {name other : String}
    (b : β) (h : other ≠ name) : (entries ++ [(name, b)]).lookup other = entries.lookup other := by
  have hlast : List.lookup other [(name, b)] = none :=
    lookup_eq_none (by simpa using h)
  rw [List.lookup_append, hlast, Option.or_none]

section Step
variable {e : Enumeration} {done : List (String × Value)} {entry : String × Value} {n : Int}
  (h : e.Holds done) (hn : entry.1 ∉ done.map Prod.fst) (hv : entry.2.asInt? = some n)
include h hn hv

theorem Holds.addAlias {member : String × Value} (hf : first? e.members n = some member) :
    Holds { e with aliases := e.aliases ++ [(entry.1, member.1)] } (done ++ [entry]) where
  isInt := h.isInt
  distinct := h.distinct
  named name hname := by
    rw [List.map_append, List.mem_append] at hname ⊢
    rcases hname with hname | hname | hname
    · exact .inl (h.named name (.inl hname))
    · exact .inl (h.named name (.inr hname))
    · exact .inr hname
  first m := by
    have hm := h.first m
    rw [first?_append, first?_singleton, hm]
    split
    · next heq =>
      -- one of that worth was declared before
      obtain rfl : n = m := Option.some.inj (hv.symm.trans heq)
      rw [hf] at hm
      obtain ⟨earlier, he, -⟩ := Option.map_eq_some_iff.mp hm.symm
      rw [he, Option.some_or]
    · rw [Option.or_none]
  called old hm m hold := by
    rcases List.mem_append.mp hm with hm | hm
    · obtain ⟨found, hfound, hcalled⟩ := h.called old hm m hold
      have hne : old.1 ≠ entry.1 := fun heq => hn (heq ▸ List.mem_map_of_mem hm)
      refine ⟨found, hfound, ?_⟩
      rw [lookup_append_singleton_of_ne _ _ hne, hcalled]
    · obtain rfl := List.mem_singleton.mp hm
      obtain rfl : n = m := Option.some.inj (hv.symm.trans hold)
      have hnew : e.aliases.lookup old.1 = none :=
        lookup_eq_none fun hm => hn (h.named _ (.inr hm))
      refine ⟨member, hf, ?_⟩
      rw [List.lookup_append, hnew, Option.none_or, List.lookup_cons_self]
      rfl

theorem Holds.addMember {kept : Value} (hkept : kept.asInt? = some n)
    (hf : first? e.members n = none) :
    Holds { e with members := e.members ++ [(entry.1, kept)] } (done ++ [entry]) where
  isInt member hm := by
    rcases List.mem_append.mp hm with hm | hm
    · exact h.isInt member hm
    · obtain rfl := List.mem_singleton.mp hm
      rw [Value.isInt, hkept]
      rfl
  distinct := by
    rw [List.map_append, List.nodup_append]
    refine ⟨h.distinct, List.pairwise_singleton _ _, ?_⟩
    rintro name hname other hother rfl
    obtain rfl := List.mem_singleton.mp hother
    exact hn (h.named _ (.inl hname))
  named name hname := by
    rw [List.map_append, List.mem_append] at hname ⊢
    rcases hname with (hname | hname) | hname
    · exact .inl (h.named name (.inl hname))
    · exact .inr hname
    · exact .inl (h.named name (.inr hname))
  first m := by
    have hm := h.first m
    rw [first?_append, first?_append, first?_singleton, first?_singleton]
    simp only [hkept, hv]
    revert hm
    cases first? e.members m <;> cases first? done m <;> intro hm
    · split <;> rfl
    · cases hm
    · cases hm
    · exact hm
  called old hm m hold := by
    rcases List.mem_append.mp hm with hm | hm
    · obtain ⟨found, hfound, hcalled⟩ := h.called old hm m hold
      refine ⟨found, ?_, hcalled⟩
      rw [first?_append, hfound, Option.some_or]
    · obtain rfl := List.mem_singleton.mp hm
      obtain rfl : n = m := Option.some.inj (hv.symm.trans hold)
      have hnew : e.aliases.lookup old.1 = none :=
        lookup_eq_none fun hm => hn (h.named _ (.inr hm))
      refine ⟨(old.1, kept), ?_, ?_⟩
      · rw [first?_append, hf, Option.none_or, first?_singleton, if_pos hkept]
      · rw [hnew]
        rfl

end Step

theorem Holds.add {e e' : Enumeration} {done : List (String × Value)} {entry : String × Value}
    (h : e.Holds done) (hn : entry.1 ∉ done.map Prod.fst) (hi : entry.2.isInt = true)
    (ha : e.add entry = .ok e') :
    e'.Holds (done ++ [entry]) ∧ e'.tag = e.tag ∧ e'.missing = e.missing := by
  obtain ⟨n, hv⟩ := Option.isSome_iff_exists.mp hi
  rcases add_cases h.isInt hv ha with ⟨member, hf, rfl⟩ | ⟨hf, kept, hkept, rfl⟩
  · exact ⟨h.addAlias hn hv hf, rfl, rfl⟩
  · exact ⟨h.addMember hn hv hkept hf, rfl, rfl⟩

/-- What a row of distinct members makes, whatever else belongs to the declaration. -/
theorem holds_of_foldlM {tag : EnumTag} {missing : Value → Except Fault Value}
    {declared : List (String × Value)} {e : Enumeration} (hd : (declared.map Prod.fst).Nodup)
    (hi : ∀ entry ∈ declared, entry.2.isInt = true)
    (h : declared.foldlM Enumeration.add ⟨tag, [], [], missing⟩ = .ok e) :
    e.Holds declared ∧ e.tag = tag ∧ e.missing = missing := by
  refine keeps_of_foldlM (P := fun done e => Holds e done ∧ e.tag = tag ∧ e.missing = missing) ?_ h
    ⟨holds_nil tag missing, rfl, rfl⟩
  rintro before entry after e e' rfl ⟨hholds, rfl, rfl⟩ hadd
  rw [List.map_append, List.nodup_append] at hd
  have hn : entry.1 ∉ before.map Prod.fst := fun hm =>
    hd.2.2 entry.1 hm entry.1 List.mem_cons_self rfl
  exact hholds.add hn (hi entry (List.mem_append_right _ List.mem_cons_self)) hadd

/-! ## The members of a declaration -/

namespace Body

theorem members_of_ignore {body body' : Body} {v : Value} (h : body.ignore v = .ok body') :
    body'.members = body.members := by
  unfold ignore at h
  cases hl : listed v with
  | error fault =>
    rw [hl] at h
    cases h
  | ok names =>
    rw [hl] at h
    simp only [bind, Except.bind, pure, Except.pure] at h
    split at h
    · cases h
    · split at h
      · cases h
      · obtain rfl := Except.ok.inj h
        rfl

/-- A new member comes last; the names of no member leave the members as they are. -/
theorem add_cases {title : String} {body body' : Body} {entry : String × Value}
    (h : body.add title entry = .ok body') :
    body'.members = body.members ∨
      entry.1 ∉ body.members.map Prod.fst ∧ body'.members = body.members ++ [entry] := by
  have hput : ∀ {name : String} {v : Value}, pure (body.put name v) = Except.ok (ε := Fault) body' →
      body'.members = body.members := by
    intro name v hp
    obtain rfl := Except.ok.inj hp
    rfl
  unfold add at h
  dsimp only at h
  split at h
  · exact .inl (hput h)
  · split at h
    · split at h
      · exact .inl (members_of_ignore h)
      · split at h
        · exact .inl (hput h)
        · cases h
    · split at h
      · exact .inl (hput h)
      · split at h
        · cases h
        · next hnew =>
          split at h
          · exact .inl (hput h)
          · split at h
            · cases h
            · obtain rfl := Except.ok.inj h
              refine .inr ⟨fun hm => hnew ?_, rfl⟩
              obtain ⟨other, hother, hname⟩ := List.mem_map.mp hm
              exact List.lookup_isSome_iff.mpr ⟨other, hother, beq_iff_eq.mpr hname.symm⟩

/-- The members are some of the entries, in their order and each with a name of its own. -/
theorem members_of_foldlM {title : String} {entries : List (String × Value)} {body : Body}
    (h : entries.foldlM (add title) empty = .ok body) :
    body.members.Sublist entries ∧ (body.members.map Prod.fst).Nodup := by
  refine keeps_of_foldlM
    (P := fun read body => body.members.Sublist read ∧ (body.members.map Prod.fst).Nodup) ?_ h
    ⟨List.nil_sublist _, List.nodup_nil⟩
  rintro before entry after body body' - ⟨hsub, hd⟩ hadd
  rcases add_cases hadd with hm | ⟨hn, hm⟩
  · rw [hm]
    exact ⟨hsub.trans (List.sublist_append_left before [entry]), hd⟩
  · rw [hm, List.map_append, List.nodup_append]
    refine ⟨hsub.append (List.Sublist.refl _), hd, List.pairwise_singleton _ _, ?_⟩
    rintro name hname other hother rfl
    obtain rfl := List.mem_singleton.mp hother
    exact hn hname

/-- Where there are members, and no rule of their own is declared, nothing is made of a value that
they do not have. -/
theorem rule_of_plain {body : Body} {host : Host} {v : Value} (hm : body.members ≠ [])
    (hn : body.other? missingName = none) : body.rule host v = .ok .none := by
  rw [rule, hn]
  simp only [List.isEmpty_iff, hm, if_false]

end Body

/-- An accepted declaration has made its members one after the other. -/
theorem exists_body_of_declare {host : Host} {tag : EnumTag} {entries : List (String × Value)}
    {e : Enumeration} (h : declare host tag entries = .ok e) :
    ∃ body, entries.foldlM (Body.add tag.name) Body.empty = .ok body ∧
      body.members.foldlM Enumeration.add ⟨tag, [], [], body.rule host⟩ = .ok e := by
  unfold declare at h
  obtain ⟨body, hbody, h⟩ := exists_of_bind_eq_ok h
  have hlast : (do
      let made ← body.members.foldlM Enumeration.add ⟨tag, [], [], body.rule host⟩
      made.checkOrder ((body.other? orderName).getD .none)
      return made) = Except.ok (ε := Fault) e →
      body.members.foldlM Enumeration.add ⟨tag, [], [], body.rule host⟩ = .ok e := by
    intro hmade
    obtain ⟨made, hfold, hmade⟩ := exists_of_bind_eq_ok hmade
    obtain ⟨-, -, hmade⟩ := exists_of_bind_eq_ok hmade
    obtain rfl := Except.ok.inj hmade
    exact hfold
  have hthrow : ∀ {α : Type} {fault : Fault} {f : Unit → Except Fault α} {a : α},
      (throw fault >>= f) ≠ .ok a := nofun
  refine ⟨body, hbody, ?_⟩
  dsimp only at h
  split at h
  · exact absurd h hthrow
  · split at h
    · split at h
      · exact absurd h hthrow
      · split at h
        · -- the members are never asked to make themselves
          split at h
          · obtain ⟨-, -, h⟩ := exists_of_bind_eq_ok h
            exact absurd h hthrow
          · exact absurd h hthrow
        · exact hlast h
    · exact hlast h

/-- A declaration of integers makes an enumeration that holds them all, the first of each worth as
a member, with the declared rule for what is missing. -/
theorem exists_holds_of_declare {host : Host} {tag : EnumTag} {entries : List (String × Value)}
    {e : Enumeration} (h : declare host tag entries = .ok e) :
    ∃ body, entries.foldlM (Body.add tag.name) Body.empty = .ok body ∧
      body.members.Sublist entries ∧
      ((∀ entry ∈ body.members, entry.2.isInt = true) →
        e.Holds body.members ∧ e.tag = tag ∧ e.missing = body.rule host) := by
  obtain ⟨body, hbody, hmade⟩ := exists_body_of_declare h
  obtain ⟨hsub, hd⟩ := Body.members_of_foldlM hbody
  exact ⟨body, hbody, hsub, fun hi => holds_of_foldlM hd hi hmade⟩

/-! ## What is found -/

section Found
variable {e : Enumeration} {declared : List (String × Value)} {n : Int} (h : e.Holds declared)
include h

theorem Holds.find?_eq_none (hf : first? declared n = none) : e.find? (.int n) = none := by
  have hfirst := h.first n
  rw [hf, Option.map_none, Option.map_eq_none_iff] at hfirst
  rw [find?_eq h.isInt (Value.asInt?_int n), hfirst, Option.map_none]

theorem Holds.exists_find? {name : String} {v : Value} (hf : first? declared n = some (name, v)) :
    ∃ kept, e.find? (.int n) = some (.member e.tag name kept) ∧ kept.asInt? = some n := by
  have hfirst := h.first n
  rw [hf, Option.map_some] at hfirst
  obtain ⟨⟨_, kept⟩, hm, rfl⟩ := Option.map_eq_some_iff.mp hfirst
  refine ⟨kept, ?_, (of_first? hm).2⟩
  rw [find?_eq h.isInt (Value.asInt?_int n), hm, Option.map_some]

/-- Every declared name is that of the member found for its value. -/
theorem Holds.member?_eq {entry : String × Value} (hm : entry ∈ declared)
    (hv : entry.2.asInt? = some n) :
    ∃ name kept, e.member? entry.1 = some (.member e.tag name kept) ∧ kept.asInt? = some n ∧
      e.find? (.int n) = some (.member e.tag name kept) := by
  obtain ⟨⟨name, kept⟩, hf, hcalled⟩ := h.called entry hm n hv
  obtain ⟨hmember, hkept⟩ := of_first? hf
  refine ⟨name, kept, member?_of_mem h.distinct hmember hcalled, hkept, ?_⟩
  rw [find?_eq h.isInt (Value.asInt?_int n), hf, Option.map_some]

end Found

end Enumeration

end ByteLayout
