/-
  Finite maps that remember the order of their keys.

  Key definitions include:
    * `GraphClient.OrderedMap`
    * `GraphClient.OrderedMap.get?`
    * `GraphClient.OrderedMap.insert`
    * `GraphClient.OrderedMap.ofList`
    * `GraphClient.OrderedMap.override`

  Key theorems include:
    * `GraphClient.OrderedMap.keys_insert`
    * `GraphClient.OrderedMap.get?_insert`

  A map is a list of entries whose keys are pairwise distinct.
  Writing a key that is already present replaces its value and
  leaves the key where it stands; a new key goes to the end.
  The declared order of types, attributes and columns is
  therefore the order in which they were first written.
-/

------------------------------------------------------------
-- Entry Lists
------------------------------------------------------------

namespace GraphClient

/- A list of named values. -/
abbrev Entries (α : Type) : Type :=
  List (String × α)

namespace Entries

variable {α : Type}

/- The value of the first entry with the given key. -/
def lookup
    (key : String) :
    Entries α → Option α
| [] => none
| (k, v) :: rest =>
    if k = key then some v else lookup key rest

/- Replace the first entry with the given key, or append. -/
def put
    (key : String)
    (value : α) :
    Entries α → Entries α
| [] => [(key, value)]
| (k, v) :: rest =>
    if k = key then
      (k, value) :: rest
    else
      (k, v) :: put key value rest

/- The keys of an entry list, in order. -/
def keys
    (entries : Entries α) :
    List String :=
  entries.map Prod.fst

/- Writing keeps the keys, or appends the new one. -/
theorem keys_put
    (key : String)
    (value : α)
    (entries : Entries α) :
    keys (put key value entries) =
      if key ∈ keys entries then
        keys entries
      else
        keys entries ++ [key] := by
  induction entries with
  | nil =>
      simp [put, keys]
  | cons entry rest ih =>
      rcases entry with ⟨k, v⟩
      by_cases hKey : k = key
      · simp [put, keys, hKey]
      · have hNe : ¬ key = k := fun h => hKey h.symm
        by_cases hMem : key ∈ keys rest
        · have hRest := ih
          simp [hMem] at hRest
          simp [put, hKey]
          simp [keys] at hRest hMem ⊢
          simp [hRest, hNe, hMem]
        · have hRest := ih
          simp [hMem] at hRest
          simp [put, hKey]
          simp [keys] at hRest hMem ⊢
          simp [hRest, hNe, hMem]

/- Writing never makes two keys equal. -/
theorem nodup_keys_put
    (key : String)
    (value : α)
    (entries : Entries α)
    (hNodup : (keys entries).Nodup) :
    (keys (put key value entries)).Nodup := by
  rw [keys_put]
  by_cases hMem : key ∈ keys entries
  · simpa [hMem] using hNodup
  · simp only [hMem, if_false]
    rw [List.nodup_append]
    refine ⟨hNodup, by simp, ?_⟩
    intro a hA b hB hEq
    have hKey : b = key := by simpa using hB
    subst hKey
    subst hEq
    exact hMem hA

/- Looking up after a write sees the write, and only it. -/
theorem lookup_put
    (key other : String)
    (value : α)
    (entries : Entries α) :
    lookup other (put key value entries) =
      if key = other then
        some value
      else
        lookup other entries := by
  induction entries with
  | nil =>
      simp [put, lookup]
  | cons entry rest ih =>
      rcases entry with ⟨k, v⟩
      by_cases hKey : k = key
      · subst hKey
        by_cases hOther : k = other <;>
          simp [put, lookup, hOther]
      · by_cases hOther : k = other
        · subst hOther
          have hNe : ¬ key = k := fun h => hKey h.symm
          simp [put, lookup, hKey, hNe]
        · simp [put, lookup, hKey, hOther, ih]

/- A key is found exactly when it is listed. -/
theorem lookup_eq_none_iff
    (key : String)
    (entries : Entries α) :
    lookup key entries = none ↔ key ∉ keys entries := by
  induction entries with
  | nil =>
      simp [lookup, keys]
  | cons entry rest ih =>
      rcases entry with ⟨k, v⟩
      by_cases hKey : k = key
      · subst hKey
        simp [lookup, keys]
      · have hNe : ¬ key = k := fun h => hKey h.symm
        simp only [lookup, hKey, if_false, ih]
        simp [keys, hNe]

end Entries

end GraphClient

------------------------------------------------------------
-- Ordered Maps
------------------------------------------------------------

namespace GraphClient

/- Named values with distinct names, in a fixed order. -/
structure OrderedMap (α : Type) where
  entries : Entries α
  nodup : entries.keys.Nodup

namespace OrderedMap

variable {α : Type}

/- Two maps with the same entries are the same map. -/
@[ext]
theorem ext
    {m n : OrderedMap α}
    (hEntries : m.entries = n.entries) :
    m = n := by
  cases m
  cases n
  cases hEntries
  rfl

instance [DecidableEq α] : DecidableEq (OrderedMap α) :=
  fun m n =>
    if hEntries : m.entries = n.entries then
      isTrue (ext hEntries)
    else
      isFalse (fun hEq => hEntries (congrArg entries hEq))

/- The map without entries. -/
def empty : OrderedMap α :=
  ⟨[], List.nodup_nil⟩

/- The keys, in order. -/
def keys
    (m : OrderedMap α) :
    List String :=
  m.entries.keys

/- The values, in the order of their keys. -/
def values
    (m : OrderedMap α) :
    List α :=
  m.entries.map Prod.snd

/- Whether the map has no entry. -/
def isEmpty
    (m : OrderedMap α) :
    Bool :=
  m.entries.isEmpty

/- The value of a key. -/
def get?
    (m : OrderedMap α)
    (key : String) :
    Option α :=
  m.entries.lookup key

/- Whether a key is present. -/
def contains
    (m : OrderedMap α)
    (key : String) :
    Bool :=
  (m.get? key).isSome

/- Write a key: replaced where it stands, new ones at the end. -/
def insert
    (m : OrderedMap α)
    (key : String)
    (value : α) :
    OrderedMap α :=
  ⟨m.entries.put key value,
    Entries.nodup_keys_put key value m.entries m.nodup⟩

/- Write every entry of a list, in order. -/
def insertAll
    (m : OrderedMap α)
    (entries : Entries α) :
    OrderedMap α :=
  entries.foldl (fun m entry => m.insert entry.1 entry.2) m

/- The map of a list: first position, last value. -/
def ofList
    (entries : Entries α) :
    OrderedMap α :=
  empty.insertAll entries

/- The first map with every entry of the second written over it. -/
def override
    (m : OrderedMap α)
    (common : OrderedMap α) :
    OrderedMap α :=
  m.insertAll common.entries

/- Remove a key. -/
def erase
    (m : OrderedMap α)
    (key : String) :
    OrderedMap α where
  entries := m.entries.filter (fun entry => entry.1 ≠ key)
  nodup :=
    m.nodup.sublist
      ((List.filter_sublist).map Prod.fst)

/- A key is present exactly when it is listed. -/
theorem contains_iff
    (m : OrderedMap α)
    (key : String) :
    m.contains key = true ↔ key ∈ m.keys := by
  have hNone := Entries.lookup_eq_none_iff key m.entries
  unfold contains get? keys
  cases hGet : m.entries.lookup key with
  | none =>
      simp [hNone.mp hGet]
  | some v =>
      simp only [Option.isSome_some, true_iff]
      by_cases hMem : key ∈ m.entries.keys
      · exact hMem
      · rw [hNone.mpr hMem] at hGet
        cases hGet

/- Writing keeps the keys, or appends the new one. -/
theorem keys_insert
    (m : OrderedMap α)
    (key : String)
    (value : α) :
    (m.insert key value).keys =
      if key ∈ m.keys then m.keys else m.keys ++ [key] :=
  Entries.keys_put key value m.entries

/- Looking up after a write sees the write, and only it. -/
theorem get?_insert
    (m : OrderedMap α)
    (key other : String)
    (value : α) :
    (m.insert key value).get? other =
      if key = other then some value else m.get? other :=
  Entries.lookup_put key other value m.entries

end OrderedMap

end GraphClient
