import GraphClient.OrderedMap
/-
  Maps made from lists of entries.

  Key definitions include:
    * `GraphClient.Entries.last?`
    * `GraphClient.OrderedMap.map`

  Key theorems include:
    * `GraphClient.OrderedMap.get?_insertAll`
    * `GraphClient.OrderedMap.get?_ofList`
    * `GraphClient.OrderedMap.ofList_entries`
    * `GraphClient.OrderedMap.keys_ofList`
    * `GraphClient.OrderedMap.keys_override`
    * `GraphClient.OrderedMap.mem_override_iff`
    * `GraphClient.OrderedMap.get?_erase`

  Of several entries with one key the last one counts, and the
  key stands where it was first written.  A map is made again
  from its own entries.  When one map is written over another,
  its values take the place of those under the same keys.
-/

------------------------------------------------------------
-- Last Entries
------------------------------------------------------------

namespace GraphClient

namespace Entries

variable {α : Type}

/- The value of the last entry with the given key. -/
def last?
    (key : String) :
    Entries α → Option α
| [] => none
| (k, v) :: rest =>
    (last? key rest).or (if k = key then some v else none)

/-
  The last entry of a key among entries that are computed from
  distinct or repeated keys is what is computed from it.
-/
theorem last?_filterMap
    (f : String → Option α)
    (key : String)
    (names : List String) :
    last? key
        (names.filterMap (fun name =>
          (f name).map (fun value => (name, value)))) =
      if key ∈ names then f key else none := by
  induction names with
  | nil => rfl
  | cons name names ih =>
      cases hValue : f name with
      | none =>
          rw [List.filterMap_cons_none (by simp [hValue]), ih]
          by_cases hName : key = name
          · rw [hName, hValue]
            simp
          · simp [hName]
      | some value =>
          rw [List.filterMap_cons_some (by rw [hValue]; rfl)]
          simp only [last?, ih]
          by_cases hName : key = name
          · subst hName
            by_cases hMem : key ∈ names <;> simp [hMem, hValue]
          · have hNe : ¬ name = key := fun h => hName h.symm
            simp [hName, hNe]

/- Writing a new key appends it. -/
theorem put_of_not_mem
    {key : String}
    {entries : Entries α}
    (hKey : key ∉ entries.keys)
    (value : α) :
    put key value entries = entries ++ [(key, value)] := by
  induction entries with
  | nil => rfl
  | cons entry rest ih =>
      rcases entry with ⟨k, v⟩
      simp only [keys, List.map_cons, List.mem_cons, not_or] at hKey
      have hNe : ¬ k = key := fun h => hKey.1 h.symm
      simp [put, hNe, ih hKey.2]

/- What is listed after a write was written, or listed before. -/
theorem mem_of_mem_put
    {key : String}
    {value : α}
    {entries : Entries α}
    {entry : String × α}
    (hMem : entry ∈ put key value entries) :
    entry = (key, value) ∨ entry ∈ entries := by
  induction entries with
  | nil => exact Or.inl (List.mem_singleton.mp hMem)
  | cons first rest ih =>
      rcases first with ⟨k, v⟩
      by_cases hKey : k = key
      · simp only [put, hKey, if_true, List.mem_cons] at hMem ⊢
        rcases hMem with hWritten | hRest
        · exact Or.inl hWritten
        · exact Or.inr (Or.inr hRest)
      · simp only [put, hKey, if_false, List.mem_cons] at hMem ⊢
        rcases hMem with hFirst | hRest
        · exact Or.inr (Or.inl hFirst)
        · rcases ih hRest with hWritten | hBefore
          · exact Or.inl hWritten
          · exact Or.inr (Or.inr hBefore)

/- Looking up among the entries of other keys misses none. -/
theorem lookup_filter_ne
    (key other : String)
    (entries : Entries α) :
    lookup other (entries.filter (fun entry => entry.1 ≠ key)) =
      if other = key then none else lookup other entries := by
  induction entries with
  | nil => simp [lookup]
  | cons entry rest ih =>
      rcases entry with ⟨k, v⟩
      by_cases hKey : k = key
      · rw [List.filter_cons_of_neg (by simpa using hKey), ih]
        by_cases hOther : other = key
        · simp [hOther]
        · have hNe : ¬ k = other := by
            intro hEq
            exact hOther (hEq.symm.trans hKey)
          simp [hOther, lookup, hNe]
      · rw [List.filter_cons_of_pos (by simpa using hKey)]
        by_cases hOther : k = other
        · have hNe : ¬ other = key := by
            intro hEq
            exact hKey (hOther.trans hEq)
          simp [lookup, hOther, hNe]
        · simpa [lookup, hOther] using ih

/- What is found is one of the entries. -/
theorem mem_of_lookup
    {key : String}
    {value : α}
    {entries : Entries α}
    (hFound : lookup key entries = some value) :
    (key, value) ∈ entries := by
  induction entries with
  | nil => cases hFound
  | cons entry rest ih =>
      rcases entry with ⟨k, v⟩
      by_cases hKey : k = key
      · simp only [lookup, hKey, if_true, Option.some.injEq] at hFound
        rw [hKey, hFound]
        exact List.mem_cons_self
      · simp only [lookup, hKey, if_false] at hFound
        exact List.mem_cons_of_mem _ (ih hFound)

/- What is found stands somewhere, with other keys before it. -/
theorem exists_split_of_lookup
    {key : String}
    {value : α}
    {entries : Entries α}
    (hFound : lookup key entries = some value) :
    ∃ before after,
      entries = before ++ (key, value) :: after ∧
        key ∉ before.keys := by
  induction entries with
  | nil => cases hFound
  | cons entry rest ih =>
      rcases entry with ⟨k, v⟩
      by_cases hKey : k = key
      · simp only [lookup, hKey, if_true, Option.some.injEq] at hFound
        subst hKey
        subst hFound
        exact ⟨[], rest, rfl, List.not_mem_nil⟩
      · simp only [lookup, hKey, if_false] at hFound
        rcases ih hFound with ⟨before, after, rfl, hBefore⟩
        refine ⟨(k, v) :: before, after, rfl, ?_⟩
        intro hMem
        rcases List.mem_cons.mp hMem with hHere | hThere
        · exact hKey hHere.symm
        · exact hBefore hThere

/- Among distinct keys each entry is found. -/
theorem lookup_of_mem
    {entries : Entries α}
    (hNodup : entries.keys.Nodup)
    {entry : String × α}
    (hMem : entry ∈ entries) :
    lookup entry.1 entries = some entry.2 := by
  induction entries with
  | nil => cases hMem
  | cons first rest ih =>
      rcases first with ⟨k, v⟩
      rw [keys, List.map_cons, List.nodup_cons] at hNodup
      rcases List.mem_cons.mp hMem with rfl | hRest
      · simp [lookup]
      · have hThere : entry.1 ∈ rest.map Prod.fst :=
          List.mem_map_of_mem hRest
        have hKey : ¬ k = entry.1 := by
          intro hEq
          exact hNodup.1 (hEq ▸ hThere)
        simp only [lookup, hKey, if_false]
        exact ih hNodup.2 hRest

end Entries

end GraphClient

------------------------------------------------------------
-- Maps from Lists
------------------------------------------------------------

namespace GraphClient

namespace OrderedMap

variable {α : Type}

/- After many writes the last one of a key is seen. -/
theorem get?_insertAll
    (m : OrderedMap α)
    (entries : Entries α)
    (key : String) :
    (m.insertAll entries).get? key =
      (entries.last? key).or (m.get? key) := by
  induction entries generalizing m with
  | nil => rfl
  | cons entry rest ih =>
      rcases entry with ⟨k, v⟩
      have hRest := ih (m.insert k v)
      rw [get?_insert] at hRest
      rw [show m.insertAll ((k, v) :: rest) =
        (m.insert k v).insertAll rest from rfl, hRest]
      cases hLast : Entries.last? key rest with
      | some last => simp [Entries.last?, hLast]
      | none =>
          by_cases hKey : k = key <;>
            simp [Entries.last?, hLast, hKey]

/- In the map of a list the last entry of a key is seen. -/
theorem get?_ofList
    (entries : Entries α)
    (key : String) :
    (ofList entries).get? key = entries.last? key := by
  have hEmpty : (empty : OrderedMap α).get? key = none := rfl
  unfold ofList
  rw [get?_insertAll, hEmpty, Option.or_none]

/- Distinct keys are all appended. -/
theorem entries_insertAll
    (m : OrderedMap α)
    (entries : Entries α)
    (hNodup : (m.entries ++ entries).keys.Nodup) :
    (m.insertAll entries).entries = m.entries ++ entries := by
  induction entries generalizing m with
  | nil => exact (List.append_nil m.entries).symm
  | cons entry rest ih =>
      rcases entry with ⟨k, v⟩
      have hNew : k ∉ m.entries.keys := by
        intro hMem
        simp only [Entries.keys, List.map_append, List.map_cons,
          List.nodup_append] at hNodup
        exact hNodup.2.2 k hMem k (by simp) rfl
      have hInsert : (m.insert k v).entries = m.entries ++ [(k, v)] :=
        Entries.put_of_not_mem hNew v
      have hRest := ih (m.insert k v) (by simpa [hInsert] using hNodup)
      rw [hInsert, List.append_assoc] at hRest
      exact hRest

/- A map is made again from its entries. -/
theorem ofList_entries
    (m : OrderedMap α) :
    ofList m.entries = m := by
  apply ext
  exact entries_insertAll empty m.entries m.nodup

/- After many writes nothing is listed that was not written. -/
theorem mem_of_mem_insertAll
    {m : OrderedMap α}
    {entries : Entries α}
    {entry : String × α}
    (hMem : entry ∈ (m.insertAll entries).entries) :
    entry ∈ entries ∨ entry ∈ m.entries := by
  induction entries generalizing m with
  | nil => exact Or.inr hMem
  | cons first rest ih =>
      rcases ih (m := m.insert first.1 first.2) hMem with hRest | hHere
      · exact Or.inl (List.mem_cons_of_mem first hRest)
      · rcases Entries.mem_of_mem_put hHere with hFirst | hBefore
        · exact Or.inl (by simp [hFirst])
        · exact Or.inr hBefore

/- The map of a list lists nothing else. -/
theorem mem_of_mem_ofList
    {entries : Entries α}
    {entry : String × α}
    (hMem : entry ∈ (ofList entries).entries) :
    entry ∈ entries := by
  rcases mem_of_mem_insertAll hMem with hListed | hNone
  · exact hListed
  · cases hNone

/- An erased key is gone, and all others stay. -/
theorem get?_erase
    (m : OrderedMap α)
    (key other : String) :
    (m.erase key).get? other =
      if other = key then none else m.get? other :=
  Entries.lookup_filter_ne key other m.entries

end OrderedMap

end GraphClient

------------------------------------------------------------
-- Keys in the Order of Writing
------------------------------------------------------------

namespace GraphClient

/-
  After some names come those that are not among them, each one
  once: a name that is there already adds nothing, and another
  one is the next.
-/
theorem Entries.append_others_cons
    (known : List String)
    (name : String)
    (names : List String) :
    known ++
        ((name :: names).filter (fun n => n ∉ known)).eraseDups =
      if name ∈ known then
        known ++ (names.filter (fun n => n ∉ known)).eraseDups
      else
        (known ++ [name]) ++
          (names.filter (fun n => n ∉ known ++ [name])).eraseDups := by
  by_cases hKnown : name ∈ known
  · rw [if_pos hKnown, List.filter_cons_of_neg (by simpa using hKnown)]
  · rw [if_neg hKnown, List.filter_cons_of_pos (by simpa using hKnown),
      List.eraseDups_cons, List.filter_filter, List.append_assoc,
      List.singleton_append]
    congr 3
    apply List.filter_congr
    intro n _
    by_cases hName : n = name <;> simp [hName]

namespace OrderedMap

variable {α : Type}

/- Keys that were not there come after those that were. -/
theorem keys_insertAll
    (m : OrderedMap α)
    (entries : Entries α) :
    (m.insertAll entries).keys =
      m.keys ++
        (entries.keys.filter (fun key => key ∉ m.keys)).eraseDups := by
  induction entries generalizing m with
  | nil => simp [insertAll, Entries.keys]
  | cons entry rest ih =>
      have hRest := ih (m.insert entry.1 entry.2)
      have hCons :=
        Entries.append_others_cons m.keys entry.1 (Entries.keys rest)
      rw [keys_insert] at hRest
      by_cases hKey : entry.1 ∈ m.keys
      · rw [if_pos hKey] at hRest hCons
        exact hRest.trans hCons.symm
      · rw [if_neg hKey] at hRest hCons
        exact hRest.trans hCons.symm

/- The keys of the map of a list are those of the list, once. -/
theorem keys_ofList
    (entries : Entries α) :
    (ofList entries).keys = entries.keys.eraseDups := by
  have hEmpty : (empty : OrderedMap α).keys = [] := rfl
  unfold ofList
  rw [keys_insertAll, hEmpty, List.nil_append,
    List.filter_eq_self.mpr (by simp)]

end OrderedMap

end GraphClient

------------------------------------------------------------
-- Maps over Maps
------------------------------------------------------------

namespace GraphClient

namespace Entries

variable {α : Type}

/- Among distinct keys the entries are those that are found. -/
theorem mem_iff_lookup
    {entries : Entries α}
    (hNodup : entries.keys.Nodup)
    {entry : String × α} :
    entry ∈ entries ↔ entries.lookup entry.1 = some entry.2 :=
  ⟨lookup_of_mem hNodup, mem_of_lookup⟩

/- Distinct names are left as they are. -/
theorem eraseDups_of_nodup
    {names : List String}
    (hNodup : names.Nodup) :
    names.eraseDups = names := by
  induction names with
  | nil => rfl
  | cons name names ih =>
      rcases List.nodup_cons.mp hNodup with ⟨hNew, hRest⟩
      have hOthers : names.filter (fun n => !n == name) = names := by
        apply List.filter_eq_self.mpr
        intro n hMem
        have hNe : n ≠ name := fun hEq => hNew (hEq ▸ hMem)
        simpa using hNe
      rw [List.eraseDups_cons, hOthers, ih hRest]

end Entries

namespace OrderedMap

variable {α : Type}

/- New names come after those of the first map. -/
theorem keys_override
    (own common : OrderedMap α) :
    (own.override common).keys =
      own.keys ++ common.keys.filter (fun key => key ∉ own.keys) := by
  have hNodup :
      (common.keys.filter (fun key => key ∉ own.keys)).Nodup :=
    common.nodup.sublist List.filter_sublist
  unfold override
  rw [keys_insertAll]
  exact congrArg _ (Entries.eraseDups_of_nodup hNodup)

/- A value of the second map goes before one of the first. -/
theorem get?_override
    (own common : OrderedMap α)
    (key : String) :
    (own.override common).get? key =
      (common.get? key).or (own.get? key) := by
  have hLast : common.entries.last? key = common.get? key := by
    rw [← get?_ofList, ofList_entries]
  unfold override
  rw [get?_insertAll, hLast]

/-
  The entries are those of the second map, and those of the first
  map under other names.
-/
theorem mem_override_iff
    {own common : OrderedMap α}
    {entry : String × α} :
    entry ∈ (own.override common).entries ↔
      entry ∈ common.entries ∨
        entry ∈ own.entries ∧ entry.1 ∉ common.keys := by
  have hOverride := get?_override own common entry.1
  have hNone := Entries.lookup_eq_none_iff entry.1 common.entries
  rw [Entries.mem_iff_lookup (own.override common).nodup,
    Entries.mem_iff_lookup common.nodup,
    Entries.mem_iff_lookup own.nodup]
  unfold get? at hOverride
  unfold keys
  rw [hOverride, ← hNone]
  cases common.entries.lookup entry.1 <;> simp

end OrderedMap

end GraphClient

------------------------------------------------------------
-- Changed Values
------------------------------------------------------------

namespace GraphClient

variable {α β : Type}

/- The value of a key is what its value is changed to. -/
theorem Entries.lookup_map
    (f : α → β)
    (key : String)
    (entries : Entries α) :
    lookup key (entries.map (fun entry => (entry.1, f entry.2))) =
      (lookup key entries).map f := by
  induction entries with
  | nil => rfl
  | cons entry rest ih =>
      rcases entry with ⟨k, v⟩
      by_cases hKey : k = key
      · simp [lookup, hKey]
      · simpa [lookup, hKey] using ih

namespace OrderedMap

/- The map with each value changed, and its keys kept in order. -/
def map
    (m : OrderedMap α)
    (f : α → β) :
    OrderedMap β where
  entries := m.entries.map (fun entry => (entry.1, f entry.2))
  nodup := by
    have hNodup := m.nodup
    unfold Entries.keys at hNodup ⊢
    rw [List.map_map]
    exact hNodup

/- There is one map without entries. -/
theorem eq_empty_of_isEmpty
    {m : OrderedMap α}
    (hEmpty : m.isEmpty = true) :
    m = empty :=
  ext (List.isEmpty_iff.mp hEmpty)

/- The same keys are present. -/
theorem contains_map
    (m : OrderedMap α)
    (f : α → β)
    (key : String) :
    (m.map f).contains key = m.contains key := by
  unfold contains get? map
  rw [Entries.lookup_map, Option.isSome_map]

/- A map whose values stay as they are is the same map. -/
theorem map_eq_self
    {m : OrderedMap α}
    {f : α → α}
    (hSame : ∀ entry ∈ m.entries, f entry.2 = entry.2) :
    m.map f = m := by
  have hEntry :
      ∀ entry ∈ m.entries, (entry.1, f entry.2) = id entry := by
    intro entry hMem
    rw [hSame entry hMem]
    rfl
  apply ext
  calc
    (m.map f).entries = m.entries.map id :=
      List.map_congr_left hEntry
    _ = m.entries := List.map_id m.entries

end OrderedMap

end GraphClient
