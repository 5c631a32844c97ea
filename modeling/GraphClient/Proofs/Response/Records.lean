import GraphClient.Proofs.Number.Numerals
import GraphClient.Proofs.OrderedMap
import GraphClient.Response.Record
import Mathlib.Data.List.Forall2
import Mathlib.Data.String.Basic
/-
  Which records a response has, and where they stand.

  Key definitions include:
    * `GraphClient.Record.Reads`
    * `GraphClient.Record.IsNode`
    * `GraphClient.Record.IsEdge`
    * `GraphClient.NodeRecord.Describes`
    * `GraphClient.EdgeRecord.Describes`
    * `GraphClient.Response.Place`
    * `GraphClient.Response.Ordered`

  Key theorems include:
    * `GraphClient.Record.reads_iff`
    * `GraphClient.NodeRecord.ofJson?_eq_some_iff`
    * `GraphClient.EdgeRecord.ofJson?_eq_some_iff`
    * `GraphClient.Json.pairwise_keys_sorted`
    * `GraphClient.Response.exists_places`

  An item of a response stands in one of its result sets, in the
  list that has some name there, at some index.  Result sets
  that are ordered by name are read in the order of the sets,
  then of the names, then of the indices, and no item is missed
  or read twice.
-/

------------------------------------------------------------
-- Records
------------------------------------------------------------

namespace GraphClient

namespace Record

/- An id is a string or a number. -/
def IsId : Json → Prop
| .string _ => True
| .int _ => True
| .float _ => True
| _ => False

instance (value : Json) : Decidable (IsId value) := by
  cases value <;> unfold IsId <;> infer_instance

/-
  How an id reads: a string as it is, and a number as its numeral.
  A number that is not finite has none and reads as null.
-/
inductive Reads : Json → String → Prop
| string (s : String) : Reads (.string s) s
| int (n : Int) : Reads (.int n) (toString n)
| float {x : Binary64} (hFinite : x.isFinite = true) :
    Reads (.float x) x.numeral.text
| notFinite {x : Binary64} (hFinite : x.isFinite = false) :
    Reads (.float x) "null"

/- How an id reads is its text. -/
theorem Reads.idText?_eq
    {value : Json}
    {text : String}
    (hReads : Reads value text) :
    idText? value = some text := by
  cases hReads with
  | string => rfl
  | int n => exact congrArg some (Numeral.text_ofInt n)
  | @float x hFinite =>
      simp [idText?, Json.compact, Json.chars, Json.charsAt,
        Json.floatChars, hFinite, Numeral.text]
  | @notFinite x hFinite =>
      simp [idText?, Json.compact, Json.chars, Json.charsAt,
        Json.floatChars, hFinite]

/- Every id reads as something, and nothing else does. -/
theorem isId_iff
    {value : Json} :
    IsId value ↔ ∃ text, Reads value text := by
  constructor
  · intro hIsId
    cases value with
    | string s => exact ⟨s, .string s⟩
    | int n => exact ⟨_, .int n⟩
    | float x =>
        cases hFinite : x.isFinite with
        | true => exact ⟨_, .float hFinite⟩
        | false => exact ⟨_, .notFinite hFinite⟩
    | _ => cases hIsId
  · rintro ⟨text, hReads⟩
    cases hReads <;> trivial

/- An id has no other text. -/
theorem reads_iff
    {value : Json}
    {text : String} :
    Reads value text ↔ idText? value = some text := by
  constructor
  · exact Reads.idText?_eq
  · intro hText
    have hIsId : IsId value := by
      cases value <;> trivial
    rcases isId_iff.mp hIsId with ⟨other, hReads⟩
    rw [hReads.idText?_eq, Option.some.injEq] at hText
    exact hText ▸ hReads

/- The id under a name reads as a text. -/
def EndReads
    (record : Json)
    (name text : String) :
    Prop :=
  ∃ id, record.field? name = some id ∧ Reads id text

/- There is one such text at most. -/
theorem EndReads.unique
    {record : Json}
    {name text other : String}
    (hText : EndReads record name text)
    (hOther : EndReads record name other) :
    text = other := by
  rcases hText with ⟨id, hId, hReads⟩
  rcases hOther with ⟨otherId, hOtherId, hOtherReads⟩
  rw [hId] at hOtherId
  cases hOtherId
  rw [reads_iff] at hReads hOtherReads
  rw [hReads] at hOtherReads
  exact Option.some.inj hOtherReads

/- A value under the first name, or under the second without it. -/
def HasEither
    (fields : Entries Json)
    (first second : String)
    (value : Json) :
    Prop :=
  fields.lookup first = some value ∨
    (fields.lookup first = none ∧
      fields.lookup second = some value)

/- There is one such value at most. -/
theorem hasEither_iff
    {fields : Entries Json}
    {first second : String}
    {value : Json} :
    HasEither fields first second value ↔
      either? fields first second = some value := by
  unfold HasEither either?
  cases fields.lookup first <;> simp

/- The attributes are an object; without one there are none. -/
def HasAttributes
    (fields attributes : Entries Json) :
    Prop :=
  fields.lookup "attributes" = some (.object attributes) ∨
    ((∀ others, fields.lookup "attributes" ≠ some (.object others)) ∧
      attributes = [])

/- There is one list of attributes. -/
theorem hasAttributes_iff
    {fields attributes : Entries Json} :
    HasAttributes fields attributes ↔
      attributes = (attributes? (.object fields)).getD [] := by
  unfold HasAttributes attributes? Json.field? Json.fields?
  simp only [Option.bind_some]
  cases fields.lookup "attributes" with
  | none => simp
  | some value => cases value <;> simp [eq_comm]

/-
  A record of a node is an object with an id under `v_id`, or
  under `id` if it has no `v_id`.
-/
def IsNode
    (record : Json) :
    Prop :=
  ∃ fields : Entries Json, record = .object fields ∧
    ∃ id, HasEither fields "v_id" "id" id ∧ IsId id

/- A record of an edge is an object with the ids of both ends. -/
def IsEdge
    (record : Json) :
    Prop :=
  ∃ fields : Entries Json, record = .object fields ∧
    (∃ id, fields.lookup "from_id" = some id ∧ IsId id) ∧
      ∃ id, fields.lookup "to_id" = some id ∧ IsId id

end Record

/- What the fields of a record say of a node. -/
structure NodeRecord.Describes
    (node : NodeRecord)
    (fields : Entries Json) :
    Prop where
  id :
    ∃ value, Record.HasEither fields "v_id" "id" value ∧
      Record.Reads value node.id
  type :
    ∀ name, node.type? = some name ↔
      Record.HasEither fields "v_type" "type" (.string name)
  attributes : Record.HasAttributes fields node.attributes

/- What the fields of a record say of an edge. -/
structure EdgeRecord.Describes
    (edge : EdgeRecord)
    (fields : Entries Json) :
    Prop where
  source : Record.EndReads (.object fields) "from_id" edge.source
  target : Record.EndReads (.object fields) "to_id" edge.target
  attributes : Record.HasAttributes fields edge.attributes
  same : edge.fields = fields

/- An object is known by its fields. -/
theorem Json.fields?_eq_some_iff
    {value : Json}
    {fields : Entries Json} :
    value.fields? = some fields ↔ value = .object fields := by
  cases value <;> simp [fields?]

/- A value that is text is a string. -/
theorem Json.bind_string?_eq_some_iff
    {value? : Option Json}
    {text : String} :
    value?.bind string? = some text ↔
      value? = some (.string text) := by
  cases value? with
  | none => simp
  | some value => cases value <;> simp [string?]

/- A node is read from the objects that describe it. -/
theorem NodeRecord.ofJson?_eq_some_iff
    {record : Json}
    {node : NodeRecord} :
    ofJson? record = some node ↔
      ∃ fields, record = .object fields ∧ node.Describes fields := by
  unfold ofJson?
  simp only [Option.bind_eq_bind, Option.bind_eq_some_iff,
    Option.pure_def, Option.some.injEq, Json.fields?_eq_some_iff,
    ← Record.reads_iff]
  apply exists_congr
  intro fields
  apply and_congr_right
  rintro rfl
  constructor
  · rintro ⟨id, ⟨value, hValue, hId⟩, rfl⟩
    exact
      { id := ⟨value, Record.hasEither_iff.mpr hValue, hId⟩
        type := fun name =>
          Json.bind_string?_eq_some_iff.trans
            Record.hasEither_iff.symm
        attributes := Record.hasAttributes_iff.mpr rfl }
  · intro hDescribes
    rcases hDescribes.id with ⟨value, hValue, hId⟩
    refine ⟨node.id,
      ⟨value, Record.hasEither_iff.mp hValue, hId⟩, ?_⟩
    have hType :
        (Record.either? fields typeColumn "type").bind
            Json.string? =
          node.type? := by
      apply Option.ext
      intro name
      exact (Json.bind_string?_eq_some_iff.trans
        Record.hasEither_iff.symm).trans (hDescribes.type name).symm
    rw [hType, ← Record.hasAttributes_iff.mp hDescribes.attributes]

/- An edge is read from the objects that describe it. -/
theorem EdgeRecord.ofJson?_eq_some_iff
    {record : Json}
    {edge : EdgeRecord} :
    ofJson? record = some edge ↔
      ∃ fields, record = .object fields ∧ edge.Describes fields := by
  unfold ofJson?
  simp only [Option.bind_eq_bind, Option.bind_eq_some_iff,
    Option.pure_def, Option.some.injEq, Json.fields?_eq_some_iff,
    ← Record.reads_iff]
  apply exists_congr
  intro fields
  apply and_congr_right
  rintro rfl
  constructor
  · rintro ⟨source, hSource, target, hTarget, rfl⟩
    exact
      { source := hSource
        target := hTarget
        attributes := Record.hasAttributes_iff.mpr rfl
        same := rfl }
  · intro hDescribes
    refine ⟨edge.source, hDescribes.source, edge.target,
      hDescribes.target, ?_⟩
    rw [← Record.hasAttributes_iff.mp hDescribes.attributes,
      ← hDescribes.same]

namespace Record

/- The records of nodes are those from which one is read. -/
theorem isNode_iff
    {record : Json} :
    IsNode record ↔
      ∃ node, NodeRecord.ofJson? record = some node := by
  constructor
  · rintro ⟨fields, rfl, value, hValue, hIsId⟩
    rcases isId_iff.mp hIsId with ⟨id, hId⟩
    simp [NodeRecord.ofJson?, Json.fields?, NodeRecord.idColumn,
      hasEither_iff.mp hValue, reads_iff.mp hId]
  · rintro ⟨node, hNode⟩
    rcases NodeRecord.ofJson?_eq_some_iff.mp hNode with
      ⟨fields, hFields, hDescribes⟩
    rcases hDescribes.id with ⟨value, hValue, hId⟩
    exact ⟨fields, hFields, value, hValue, isId_iff.mpr ⟨_, hId⟩⟩

instance (record : Json) : Decidable (IsNode record) :=
  decidable_of_iff _
    (Option.isSome_iff_exists.trans isNode_iff.symm)

/- The records of edges are those from which one is read. -/
theorem isEdge_iff
    {record : Json} :
    IsEdge record ↔
      ∃ edge, EdgeRecord.ofJson? record = some edge := by
  constructor
  · rintro ⟨fields, rfl, ⟨value, hValue, hIsId⟩,
      other, hOther, hIsOther⟩
    rcases isId_iff.mp hIsId with ⟨source, hSource⟩
    rcases isId_iff.mp hIsOther with ⟨target, hTarget⟩
    simp [EdgeRecord.ofJson?, Json.fields?, EdgeRecord.sourceColumn,
      EdgeRecord.targetColumn, hValue, hOther,
      reads_iff.mp hSource, reads_iff.mp hTarget]
  · rintro ⟨edge, hEdge⟩
    rcases EdgeRecord.ofJson?_eq_some_iff.mp hEdge with
      ⟨fields, hFields, hDescribes⟩
    rcases hDescribes.source with ⟨value, hValue, hSource⟩
    rcases hDescribes.target with ⟨other, hOther, hTarget⟩
    exact ⟨fields, hFields,
      ⟨value, hValue, isId_iff.mpr ⟨_, hSource⟩⟩,
      other, hOther, isId_iff.mpr ⟨_, hTarget⟩⟩

instance (record : Json) : Decidable (IsEdge record) :=
  decidable_of_iff _
    (Option.isSome_iff_exists.trans isEdge_iff.symm)

end Record

end GraphClient

------------------------------------------------------------
-- Fields in Order
------------------------------------------------------------

namespace GraphClient

namespace Json

/- Writing a field in order lists its key beside the others. -/
theorem mem_keys_putSorted_iff
    {key other : String}
    {value : Json}
    {fields : Entries Json} :
    other ∈ Entries.keys (putSorted key value fields) ↔
      other = key ∨ other ∈ fields.keys := by
  induction fields with
  | nil => simp [putSorted, Entries.keys]
  | cons field rest ih =>
      rcases field with ⟨k, v⟩
      unfold putSorted
      unfold Entries.keys at ih ⊢
      by_cases hKey : k = key
      · simp [hKey]
      · by_cases hBefore : key < k
        · simp [hKey, hBefore]
        · simp only [hKey, hBefore, if_false, List.map_cons,
            List.mem_cons, ih]
          exact or_left_comm

/- Writing a field in order keeps the order. -/
theorem pairwise_keys_putSorted
    (key : String)
    (value : Json)
    {fields : Entries Json}
    (hOrdered : fields.keys.Pairwise (· < ·)) :
    (Entries.keys (putSorted key value fields)).Pairwise
      (· < ·) := by
  induction fields with
  | nil => simp [putSorted, Entries.keys]
  | cons field rest ih =>
      rcases field with ⟨k, v⟩
      have hParts :
          (∀ other ∈ Entries.keys rest, k < other) ∧
            (Entries.keys rest).Pairwise (· < ·) :=
        List.pairwise_cons.mp hOrdered
      unfold putSorted
      by_cases hKey : k = key
      · rw [if_pos hKey]
        exact hOrdered
      · by_cases hBefore : key < k
        · rw [if_neg hKey, if_pos hBefore]
          refine List.pairwise_cons.mpr ⟨?_, hOrdered⟩
          intro other hOther
          rcases List.mem_cons.mp hOther with rfl | hRest
          · exact hBefore
          · exact hBefore.trans (hParts.1 other hRest)
        · rw [if_neg hKey, if_neg hBefore]
          refine List.pairwise_cons.mpr ⟨?_, ih hParts.2⟩
          intro other hOther
          rcases mem_keys_putSorted_iff.mp hOther with rfl | hRest
          · exact lt_of_le_of_ne (not_lt.mp hBefore) hKey
          · exact hParts.1 other hRest

/- The fields of an object that is read are ordered by key. -/
theorem pairwise_keys_sorted
    (fields : Entries Json) :
    (Entries.keys (sorted fields)).Pairwise (· < ·) := by
  have hFold (before : Entries Json)
      (hBefore : before.keys.Pairwise (· < ·)) :
      (Entries.keys (fields.foldl
        (fun sorted field => putSorted field.1 field.2 sorted)
        before)).Pairwise (· < ·) := by
    induction fields generalizing before with
    | nil => exact hBefore
    | cons field rest ih =>
        exact ih _ (pairwise_keys_putSorted field.1 field.2 hBefore)
  exact hFold [] List.Pairwise.nil

end Json

end GraphClient

------------------------------------------------------------
-- Lists Made of Lists
------------------------------------------------------------

namespace GraphClient

namespace Response

/- Indices grow along a list. -/
theorem pairwise_zipIdx
    {α : Type}
    (xs : List α) :
    xs.zipIdx.Pairwise (fun x y => x.2 < y.2) := by
  have hIndices : (xs.zipIdx.map Prod.snd).Pairwise (· < ·) := by
    rw [List.zipIdx_map_snd]
    exact List.pairwise_lt_range'
  exact List.pairwise_map.mp hIndices

/- Lists made of related lists are related. -/
theorem forall₂_flatMap
    {α β γ : Type}
    {R : β → γ → Prop}
    {f : α → List β}
    {g : α → List γ}
    {xs : List α}
    (hEach : ∀ x ∈ xs, List.Forall₂ R (f x) (g x)) :
    List.Forall₂ R (xs.flatMap f) (xs.flatMap g) := by
  induction xs with
  | nil => exact .nil
  | cons x xs ih =>
      rw [List.forall_mem_cons] at hEach
      rw [List.flatMap_cons, List.flatMap_cons]
      exact List.rel_append hEach.1 (ih hEach.2)

/- What is made of a list comes from the items that it keeps. -/
theorem forall₂_filterMap
    {α β : Type}
    {f : α → Option β}
    {keeps : α → Bool}
    (hKeeps : ∀ x, keeps x = true ↔ ∃ y, f x = some y)
    (xs : List α) :
    List.Forall₂ (fun x y => f x = some y)
      (xs.filter keeps) (xs.filterMap f) := by
  induction xs with
  | nil => exact .nil
  | cons x xs ih =>
      cases hValue : f x with
      | none =>
          have hNone : ¬ keeps x = true := by
            simp [hKeeps, hValue]
          rw [List.filterMap_cons_none hValue,
            List.filter_cons_of_neg hNone]
          exact ih
      | some y =>
          rw [List.filterMap_cons_some hValue,
            List.filter_cons_of_pos ((hKeeps x).mpr ⟨y, hValue⟩)]
          exact .cons hValue ih

/- What is related to an item stands at the same index. -/
theorem exists_getElem?_of_forall₂
    {α β : Type}
    {R : α → β → Prop}
    {xs : List α}
    {ys : List β}
    (hRelated : List.Forall₂ R xs ys)
    {i : Nat}
    {x : α}
    (hX : xs[i]? = some x) :
    ∃ y, ys[i]? = some y ∧ R x y := by
  rcases List.getElem?_eq_some_iff.mp hX with ⟨hIndex, rfl⟩
  have hBound : i < ys.length := hRelated.length_eq ▸ hIndex
  exact ⟨ys[i], List.getElem?_eq_getElem hBound,
    hRelated.get hIndex hBound⟩

end Response

/- The nodes are those of the records of nodes, in order. -/
theorem NodeRecord.forall₂_all
    (response : Response) :
    List.Forall₂
      (fun record node =>
        ∃ fields, record = .object fields ∧ Describes node fields)
      (response.records.filter (fun record => Record.IsNode record))
      (all response) := by
  have hKeeps (record : Json) :
      decide (Record.IsNode record) = true ↔
        ∃ read, ofJson? record = some read :=
    decide_eq_true_iff.trans Record.isNode_iff
  exact (Response.forall₂_filterMap hKeeps response.records).imp
    (fun _ _ => ofJson?_eq_some_iff.mp)

/- The edges are those of the records of edges, in order. -/
theorem EdgeRecord.forall₂_all
    (response : Response) :
    List.Forall₂
      (fun record edge =>
        ∃ fields, record = .object fields ∧ Describes edge fields)
      (response.records.filter (fun record => Record.IsEdge record))
      (all response) := by
  have hKeeps (record : Json) :
      decide (Record.IsEdge record) = true ↔
        ∃ read, ofJson? record = some read :=
    decide_eq_true_iff.trans Record.isEdge_iff
  exact (Response.forall₂_filterMap hKeeps response.records).imp
    (fun _ _ => ofJson?_eq_some_iff.mp)

end GraphClient

------------------------------------------------------------
-- Places
------------------------------------------------------------

namespace GraphClient

namespace Response

/- A result set, a name in it, and an index in the list there. -/
structure Place where
  set : Nat
  name : String
  index : Nat
deriving DecidableEq, Repr

/- Sets come first, then names, then indices. -/
def Place.Before
    (p q : Place) :
    Prop :=
  p.set < q.set ∨
    (p.set = q.set ∧
      (p.name < q.name ∨ (p.name = q.name ∧ p.index < q.index)))

/- The item that stands at a place. -/
def item?
    (response : Response)
    (place : Place) :
    Option Json :=
  response[place.set]?.bind (fun set =>
    (Entries.lookup place.name set).bind (fun value =>
      value.items?.bind (fun items => items[place.index]?)))

/- Each result set lists its names in order, each one once. -/
def Ordered
    (response : Response) :
    Prop :=
  ∀ set ∈ response, (Entries.keys set).Pairwise (· < ·)

/- The places of a response, as they are visited. -/
def places
    (response : Response) :
    List Place :=
  response.zipIdx.flatMap (fun set =>
    set.1.flatMap (fun entry =>
      (entry.2.items?.getD []).zipIdx.map (fun item =>
        ⟨set.2, entry.1, item.2⟩)))

/- An entry of an ordered set is what its name stands for. -/
theorem Ordered.lookup_iff
    {response : Response}
    (hOrdered : response.Ordered)
    {set : ResultSet}
    (hSet : set ∈ response)
    {name : String}
    {value : Json} :
    Entries.lookup name set = some value ↔ (name, value) ∈ set := by
  have hNodup : (Entries.keys set).Nodup :=
    (hOrdered set hSet).imp ne_of_lt
  rw [Entries.mem_iff_lookup hNodup]

/- The places are those at which an item stands. -/
theorem mem_places_iff
    {response : Response}
    (hOrdered : response.Ordered)
    {place : Place} :
    place ∈ response.places ↔
      ∃ record, response.item? place = some record := by
  rcases place with ⟨i, name, j⟩
  simp only [places, item?, List.mem_flatMap, List.mem_map,
    List.mem_zipIdx_iff_getElem?, Prod.exists, Place.mk.injEq,
    Option.bind_eq_some_iff]
  constructor
  · rintro ⟨set, _, hSet, _, value, hEntry, record, _, hItem,
      rfl, rfl, rfl⟩
    have hMem : set ∈ response := List.mem_of_getElem? hSet
    have hValue := (hOrdered.lookup_iff hMem).mpr hEntry
    cases hItems : value.items? with
    | none => simp [hItems] at hItem
    | some items =>
        rw [hItems] at hItem
        exact ⟨record, set, hSet, value, hValue, items, hItems, hItem⟩
  · rintro ⟨record, set, hSet, value, hValue, items, hItems, hItem⟩
    have hMem : set ∈ response := List.mem_of_getElem? hSet
    refine ⟨set, i, hSet, name, value,
      (hOrdered.lookup_iff hMem).mp hValue, record, j, ?_,
      rfl, rfl, rfl⟩
    rw [hItems]
    exact hItem

/- Places are visited in order. -/
theorem pairwise_places
    {response : Response}
    (hOrdered : response.Ordered) :
    response.places.Pairwise Place.Before := by
  refine List.pairwise_flatMap.mpr ⟨?_, ?_⟩
  · intro set hSet
    have hMem : set.1 ∈ response :=
      List.mem_of_getElem? (List.mem_zipIdx_iff_getElem?.mp hSet)
    refine List.pairwise_flatMap.mpr ⟨?_, ?_⟩
    · intro entry _
      apply List.pairwise_map.mpr
      apply (pairwise_zipIdx _).imp
      exact fun hIndex => Or.inr ⟨rfl, Or.inr ⟨rfl, hIndex⟩⟩
    · apply (List.pairwise_map.mp (hOrdered set.1 hMem)).imp
      intro entry later hName place hPlace other hOther
      rcases List.mem_map.mp hPlace with ⟨_, _, rfl⟩
      rcases List.mem_map.mp hOther with ⟨_, _, rfl⟩
      exact Or.inr ⟨rfl, Or.inl hName⟩
  · apply (pairwise_zipIdx response).imp
    intro set later hIndex place hPlace other hOther
    rcases List.mem_flatMap.mp hPlace with ⟨_, _, hFirst⟩
    rcases List.mem_map.mp hFirst with ⟨_, _, rfl⟩
    rcases List.mem_flatMap.mp hOther with ⟨_, _, hSecond⟩
    rcases List.mem_map.mp hSecond with ⟨_, _, rfl⟩
    exact Or.inl hIndex

/- The items of a response are those at its places, in order. -/
theorem forall₂_places
    {response : Response}
    (hOrdered : response.Ordered) :
    List.Forall₂ (fun place record => response.item? place = some record)
      response.places response.records := by
  have hRecords :
      response.records =
        response.zipIdx.flatMap (fun set =>
          set.1.flatMap (fun entry => entry.2.items?.getD [])) := by
    conv_lhs => rw [records, ← List.zipIdx_map_fst 0 response]
    rw [List.flatMap_map]
  rw [hRecords]
  apply forall₂_flatMap
  intro set hSet
  have hAt := List.mem_zipIdx_iff_getElem?.mp hSet
  apply forall₂_flatMap
  intro entry hEntry
  have hValue :=
    (hOrdered.lookup_iff (List.mem_of_getElem? hAt)).mpr hEntry
  cases hItems : entry.2.items? with
  | none => exact .nil
  | some items =>
      rw [Option.getD_some, List.forall₂_map_left_iff]
      conv => rhs; rw [← List.zipIdx_map_fst 0 items]
      rw [List.forall₂_map_right_iff]
      apply List.forall₂_same.mpr
      intro item hItem
      simp [item?, hAt, hValue, hItems,
        List.mem_zipIdx_iff_getElem?.mp hItem]

/- What is made of the items of a response is made at places. -/
theorem filterMap_records
    {α : Type}
    {response : Response}
    (hOrdered : response.Ordered)
    (f : Json → Option α) :
    response.records.filterMap f =
      response.places.filterMap (fun place =>
        (response.item? place).bind f) := by
  have hItems := forall₂_places hOrdered
  generalize response.places = places at hItems ⊢
  generalize response.records = records at hItems ⊢
  induction hItems with
  | nil => rfl
  | cons hItem _ ih =>
      rw [List.filterMap_cons, List.filterMap_cons, hItem,
        Option.bind_some, ih]

/-
  What is made of the items of an ordered response comes from
  distinct places, in order, and from each one at which there is
  something that it can be made of.
-/
theorem exists_places
    {α : Type}
    {response : Response}
    (hOrdered : response.Ordered)
    (f : Json → Option α) :
    ∃ places : List Place,
      places.Pairwise Place.Before ∧
        (∀ place, place ∈ places ↔
          ∃ record ∈ response.item? place, ∃ a, f record = some a) ∧
        List.Forall₂
          (fun place a => (response.item? place).bind f = some a)
          places (response.records.filterMap f) := by
  refine ⟨response.places.filter (fun place =>
      ((response.item? place).bind f).isSome),
    (pairwise_places hOrdered).filter _, ?_, ?_⟩
  · intro place
    rw [List.mem_filter, mem_places_iff hOrdered]
    cases hItem : response.item? place with
    | none => simp
    | some record => simp [Option.isSome_iff_exists]
  · rw [filterMap_records hOrdered]
    exact forall₂_filterMap (fun _ => Option.isSome_iff_exists) _

end Response

end GraphClient
