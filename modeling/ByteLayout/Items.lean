/-! # Named items in order

A row of named items in which no name occurs twice. A new name goes to the end, an
item written again keeps its place, and one that was erased and written again is new.
-/
namespace ByteLayout

structure Items (α : Type) where
  entries : List (String × α)
  distinct : (entries.map Prod.fst).Nodup

namespace Items
variable {α β : Type}

def empty : Items α := ⟨[], List.nodup_nil⟩

instance : Inhabited (Items α) := ⟨empty⟩

def names (items : Items α) : List String := items.entries.map Prod.fst

def get? (items : Items α) (name : String) : Option α := items.entries.lookup name

def contains (items : Items α) (name : String) : Bool := (items.get? name).isSome

def putEntry (name : String) (value : α) : List (String × α) → List (String × α)
  | [] => [(name, value)]
  | entry :: rest =>
    if entry.1 = name then (name, value) :: rest else entry :: putEntry name value rest

theorem mem_names_putEntry (name other : String) (value : α) (entries : List (String × α)) :
    other ∈ (putEntry name value entries).map Prod.fst →
      other = name ∨ other ∈ entries.map Prod.fst := by
  induction entries with
  | nil => simp [putEntry]
  | cons entry rest ih =>
    intro h
    by_cases he : entry.1 = name
    · rw [putEntry, if_pos he, List.map_cons, List.mem_cons] at h
      rcases h with h | h
      · exact Or.inl h
      · exact Or.inr (List.mem_cons_of_mem _ h)
    · rw [putEntry, if_neg he, List.map_cons, List.mem_cons] at h
      rcases h with h | h
      · exact Or.inr (h ▸ List.mem_cons_self)
      · exact (ih h).imp id (List.mem_cons_of_mem _)

theorem nodup_names_putEntry (name : String) (value : α) (entries : List (String × α))
    (h : (entries.map Prod.fst).Nodup) : ((putEntry name value entries).map Prod.fst).Nodup := by
  induction entries with
  | nil => simp [putEntry]
  | cons entry rest ih =>
    rw [List.map_cons, List.nodup_cons] at h
    by_cases he : entry.1 = name
    · rw [putEntry, if_pos he, List.map_cons, List.nodup_cons]
      exact ⟨fun hm => h.1 (he ▸ hm), h.2⟩
    · rw [putEntry, if_neg he, List.map_cons, List.nodup_cons]
      refine ⟨fun hm => ?_, ih h.2⟩
      rcases mem_names_putEntry name entry.1 value rest hm with hn | hn
      · exact he hn
      · exact h.1 hn

def insert (items : Items α) (name : String) (value : α) : Items α :=
  ⟨putEntry name value items.entries, nodup_names_putEntry name value _ items.distinct⟩

def erase (items : Items α) (name : String) : Items α where
  entries := items.entries.filter (·.1 != name)
  distinct := (List.filter_sublist.map Prod.fst).nodup items.distinct

def ofList (entries : List (String × α)) : Items α :=
  entries.foldl (fun items entry => items.insert entry.1 entry.2) empty

def map (f : α → β) (items : Items α) : Items β where
  entries := items.entries.map fun entry => (entry.1, f entry.2)
  distinct := by
    rw [List.map_map]
    exact items.distinct

theorem ext {a b : Items α} (h : a.entries = b.entries) : a = b := by
  cases a; cases b; cases h; rfl

theorem putEntry_of_notMem (name : String) (value : α) (entries : List (String × α))
    (h : name ∉ entries.map Prod.fst) :
    putEntry name value entries = entries ++ [(name, value)] := by
  induction entries with
  | nil => rfl
  | cons entry rest ih =>
    rw [List.map_cons, List.mem_cons, not_or] at h
    rw [putEntry, if_neg (fun he => h.1 he.symm), ih h.2, List.cons_append]

theorem foldl_insert_entries (entries : List (String × α)) (items : Items α)
    (h : (items.names ++ entries.map Prod.fst).Nodup) :
    (entries.foldl (fun items entry => items.insert entry.1 entry.2) items).entries =
      items.entries ++ entries := by
  induction entries generalizing items with
  | nil => simp
  | cons entry rest ih =>
    have hn : entry.1 ∉ items.names := by
      intro hm
      exact (List.nodup_append.mp h).2.2 _ hm _ (List.mem_cons_self ..) rfl
    have he : (items.insert entry.1 entry.2).entries = items.entries ++ [entry] :=
      putEntry_of_notMem entry.1 entry.2 items.entries hn
    rw [List.foldl_cons, ih, he, List.append_assoc, List.singleton_append]
    have hs : (items.insert entry.1 entry.2).names = items.names ++ [entry.1] := by
      rw [names, he, List.map_append]; rfl
    rw [hs, List.append_assoc]
    exact h

/-- A row without repeated names is taken as it is. -/
theorem entries_ofList (entries : List (String × α)) (h : (entries.map Prod.fst).Nodup) :
    (ofList entries).entries = entries := by
  rw [ofList, foldl_insert_entries entries empty (by simpa [names, empty] using h)]
  rfl

theorem lookup_of_mem {entries : List (String × α)} (h : (entries.map Prod.fst).Nodup)
    {entry : String × α} (hm : entry ∈ entries) : entries.lookup entry.1 = some entry.2 := by
  induction entries with
  | nil => exact absurd hm List.not_mem_nil
  | cons first rest ih =>
    rw [List.map_cons, List.nodup_cons] at h
    rcases List.mem_cons.mp hm with rfl | hm
    · exact List.lookup_cons_self
    · have hne : (entry.1 == first.1) = false := by
        rw [beq_eq_false_iff_ne]
        intro he
        exact h.1 (he ▸ List.mem_map_of_mem hm)
      rw [List.lookup_cons, hne, ih h.2 hm]

theorem get?_of_mem (items : Items α) {entry : String × α} (hm : entry ∈ items.entries) :
    items.get? entry.1 = some entry.2 := lookup_of_mem items.distinct hm

theorem lookup_cons_eq (name other : String) (value : α) (rest : List (String × α)) :
    ((name, value) :: rest).lookup other =
      if name = other then some value else rest.lookup other := by
  rw [List.lookup_cons]
  by_cases h : name = other
  · rw [if_pos h, h, beq_self_eq_true]
  · have hb : (other == name) = false := beq_eq_false_iff_ne.mpr (Ne.symm h)
    rw [if_neg h, hb]

theorem lookup_putEntry (name other : String) (value : α) (entries : List (String × α)) :
    (putEntry name value entries).lookup other =
      if name = other then some value else entries.lookup other := by
  induction entries with
  | nil => exact lookup_cons_eq name other value []
  | cons entry rest ih =>
    obtain ⟨first, held⟩ := entry
    by_cases he : first = name
    · rw [putEntry, if_pos he, lookup_cons_eq, lookup_cons_eq, he]
      split <;> rfl
    · rw [putEntry, if_neg he, lookup_cons_eq, lookup_cons_eq, ih]
      by_cases ho : first = other
      · have hn : name ≠ other := fun hn => he (ho.trans hn.symm)
        rw [if_pos ho, if_neg hn, if_pos ho]
      · rw [if_neg ho, if_neg ho]

theorem lookup_filter_ne (name other : String) (entries : List (String × α)) :
    (entries.filter (·.1 != name)).lookup other =
      if name = other then none else entries.lookup other := by
  induction entries with
  | nil => rw [List.filter_nil, List.lookup_nil, ite_self]
  | cons entry rest ih =>
    obtain ⟨first, held⟩ := entry
    by_cases he : first = name
    · have hb : ¬(first != name) = true := fun hb => bne_iff_ne.mp hb he
      rw [List.filter_cons, if_neg hb, ih, lookup_cons_eq, he]
      split <;> rfl
    · have hb : (first != name) = true := bne_iff_ne.mpr he
      rw [List.filter_cons, if_pos hb, lookup_cons_eq, lookup_cons_eq, ih]
      by_cases ho : first = other
      · have hn : name ≠ other := fun hn => he (ho.trans hn.symm)
        rw [if_pos ho, if_pos ho, if_neg hn]
      · rw [if_neg ho, if_neg ho]

theorem get?_insert (items : Items α) (name other : String) (value : α) :
    (items.insert name value).get? other = if name = other then some value else items.get? other :=
  lookup_putEntry name other value items.entries

theorem get?_erase (items : Items α) (name other : String) :
    (items.erase name).get? other = if name = other then none else items.get? other :=
  lookup_filter_ne name other items.entries

end Items

end ByteLayout
