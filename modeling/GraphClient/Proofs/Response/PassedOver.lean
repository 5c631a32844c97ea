import GraphClient.Proofs.Response.Projection
import GraphClient.Proofs.Response.Records
import Mathlib.Data.List.Sort
import Mathlib.Logic.Relation
/-
  What a reader passes over in a response.

  Key definitions include:
    * `GraphClient.Response.Visits`
    * `GraphClient.Response.Change`
    * `GraphClient.Response.Alike`

  Key theorems include:
    * `GraphClient.Response.visits_iff`
    * `GraphClient.Response.Change.filter_records`
    * `GraphClient.Response.alike_iff`
    * `GraphClient.Response.tables_of_alike`

  Tables and keys are made of records alone.  What is no record,
  lists that are none, and sets without names can be put into a
  response or taken out of it anywhere, and its items can be
  moved to other sets and lists as long as their order stays.
-/

------------------------------------------------------------
-- Items in Order
------------------------------------------------------------

namespace GraphClient

namespace Response

/- Of two places one at most comes before the other. -/
theorem Place.Before.asymm
    {p q : Place}
    (hBefore : p.Before q) :
    ¬ q.Before p := by
  rintro (hSet | ⟨hSet, hName | ⟨hName, hIndex⟩⟩)
  · rcases hBefore with hFirst | ⟨hSame, _⟩
    · exact Nat.lt_asymm hFirst hSet
    · exact Nat.ne_of_lt hSet hSame.symm
  · rcases hBefore with hFirst | ⟨_, hFirst | ⟨hSame, _⟩⟩
    · exact Nat.ne_of_lt hFirst hSet.symm
    · exact lt_asymm hFirst hName
    · exact hName.ne hSame.symm
  · rcases hBefore with hFirst | ⟨_, hFirst | ⟨_, hSmaller⟩⟩
    · exact Nat.ne_of_lt hFirst hSet.symm
    · exact hFirst.ne hName.symm
    · exact Nat.lt_asymm hSmaller hIndex

instance : Std.Irrefl Place.Before :=
  ⟨fun _ hBefore => hBefore.asymm hBefore⟩

instance : Std.Antisymm Place.Before :=
  ⟨fun _ _ hBefore hAfter => (hBefore.asymm hAfter).elim⟩

/- The items at all places of a response, in their order. -/
def Visits
    (response : Response)
    (items : List Json) :
    Prop :=
  ∃ places : List Place,
    places.Pairwise Place.Before ∧
      (∀ place, place ∈ places ↔
        ∃ item, response.item? place = some item) ∧
      places.map response.item? = items.map some

/- An ordered response is visited in one way, as it is read. -/
theorem visits_iff
    {response : Response}
    (hOrdered : response.Ordered)
    {items : List Json} :
    response.Visits items ↔ items = response.records := by
  have hPlaces :
      List.Forall₂ Eq (response.places.map response.item?)
        (response.records.map some) := by
    rw [List.forall₂_map_left_iff, List.forall₂_map_right_iff]
    exact forall₂_places hOrdered
  rw [List.forall₂_eq_eq_eq] at hPlaces
  constructor
  · rintro ⟨places, hBefore, hMem, hItems⟩
    have hSame : places = response.places :=
      hBefore.eq_of_mem_iff (pairwise_places hOrdered)
        (fun place =>
          (hMem place).trans (mem_places_iff hOrdered).symm)
    rw [hSame, hPlaces] at hItems
    exact (List.map_injective_iff.mpr (Option.some_injective _)
      hItems).symm
  · rintro rfl
    exact ⟨response.places, pairwise_places hOrdered,
      fun _ => mem_places_iff hOrdered, hPlaces⟩

end Response

end GraphClient

------------------------------------------------------------
-- Changes
------------------------------------------------------------

namespace GraphClient

namespace Response

/-
  One change to a response that does not concern its records:
  an item that is no record is put into a list, a name that does
  not stand for a list into a set, or an empty set between the
  others; or all items are moved to other sets and lists, where
  they are visited in the same order.
-/
inductive Change
    (IsRecord : Json → Prop) :
    Response → Response → Prop
| item
    (before after : Response)
    (earlier later : ResultSet)
    (name : String)
    (left right : List Json)
    {item : Json}
    (hItem : ¬ IsRecord item) :
    Change IsRecord
      (before ++
        (earlier ++ (name, .array (left ++ right)) :: later) ::
          after)
      (before ++
        (earlier ++ (name, .array (left ++ item :: right)) :: later)
          :: after)
| name
    (before after : Response)
    (earlier later : ResultSet)
    (name : String)
    {value : Json}
    (hValue : ∀ items, value ≠ .array items) :
    Change IsRecord
      (before ++ (earlier ++ later) :: after)
      (before ++ (earlier ++ (name, value) :: later) :: after)
| set
    (before after : Response) :
    Change IsRecord (before ++ after) (before ++ [] :: after)
| regroup
    {response regrouped : Response}
    (hOrdered : response.Ordered)
    (hRegrouped : regrouped.Ordered)
    {items : List Json}
    (hItems : response.Visits items)
    (hSame : regrouped.Visits items) :
    Change IsRecord response regrouped

/- Responses that differ by such changes, made or taken back. -/
def Alike
    (IsRecord : Json → Prop) :
    Response → Response → Prop :=
  Relation.EqvGen (Change IsRecord)

variable {IsRecord : Json → Prop} [DecidablePred IsRecord]
variable {response other : Response}

/- A change leaves the records and their order. -/
theorem Change.filter_records
    (hChange : Change IsRecord response other) :
    response.records.filter (fun item => IsRecord item) =
      other.records.filter (fun item => IsRecord item) := by
  cases hChange with
  | item before after earlier later name left right hItem =>
      simp [records, Json.items?, hItem]
  | name before after earlier later name hValue =>
      rename_i value
      have hNone : value.items? = none := by
        cases value with
        | array items => exact (hValue items rfl).elim
        | _ => rfl
      simp [records, hNone]
  | set before after => simp [records]
  | regroup hOrdered hRegrouped hItems hSame =>
      rw [← (visits_iff hOrdered).mp hItems,
        ← (visits_iff hRegrouped).mp hSame]

/- So do any number of changes. -/
theorem Alike.filter_records
    (hAlike : Alike IsRecord response other) :
    response.records.filter (fun item => IsRecord item) =
      other.records.filter (fun item => IsRecord item) := by
  induction hAlike with
  | rel _ _ hChange => exact hChange.filter_records
  | refl _ => rfl
  | symm _ _ _ ih => exact ih.symm
  | trans _ _ _ _ _ hFirst hSecond => exact hFirst.trans hSecond

/- What is no record can be taken out of a list, item by item. -/
theorem alike_filter
    (left items : List Json) :
    Alike IsRecord
      [[("", .array
        (left ++ items.filter (fun item => IsRecord item)))]]
      [[("", .array (left ++ items))]] := by
  induction items generalizing left with
  | nil => exact .refl _
  | cons item items ih =>
      by_cases hItem : IsRecord item
      · -- a record stays, and belongs to what is on the left
        have hRest := ih (left ++ [item])
        rw [List.append_assoc, List.append_assoc] at hRest
        rw [List.filter_cons_of_pos (by simpa using hItem)]
        exact hRest
      · rw [List.filter_cons_of_neg (by simpa using hItem)]
        exact .trans _ _ _ (ih left)
          (.rel _ _ (.item [] [] [] [] "" left items hItem))

/- A single name is ordered. -/
theorem ordered_single
    (name : String)
    (value : Json) :
    Ordered [[(name, value)]] := by
  intro set hSet
  rw [List.mem_singleton.mp hSet]
  exact List.pairwise_singleton _ _

/- An ordered response is like one list of its records. -/
theorem alike_gathered
    (hOrdered : response.Ordered) :
    Alike IsRecord response
      [[("", .array
        (response.records.filter (fun item => IsRecord item)))]] := by
  have hList := ordered_single "" (.array response.records)
  have hRegroup :
      Change IsRecord response [[("", .array response.records)]] := by
    apply Change.regroup hOrdered hList
      ((visits_iff hOrdered).mpr rfl)
    rw [visits_iff hList]
    simp [records, Json.items?]
  exact .trans _ _ _ (.rel _ _ hRegroup)
    (.symm _ _ (alike_filter [] response.records))

/- Ordered responses are alike when they have the same records. -/
theorem alike_iff
    (hResponse : response.Ordered)
    (hOther : other.Ordered) :
    Alike IsRecord response other ↔
      response.records.filter (fun item => IsRecord item) =
        other.records.filter (fun item => IsRecord item) := by
  constructor
  · exact Alike.filter_records
  · intro hSame
    have hGathered : Alike IsRecord response _ :=
      alike_gathered hResponse
    rw [hSame] at hGathered
    exact .trans _ _ _ hGathered (.symm _ _ (alike_gathered hOther))

end Response

end GraphClient

------------------------------------------------------------
-- Tables and Keys
------------------------------------------------------------

namespace GraphClient

namespace Response

/- Reading only the items that can be read misses nothing. -/
theorem filterMap_filter
    {α : Type}
    {f : Json → Option α}
    {IsRecord : Json → Prop}
    [DecidablePred IsRecord]
    (hRead : ∀ item, IsRecord item ↔ ∃ a, f item = some a)
    (items : List Json) :
    (items.filter (fun item => IsRecord item)).filterMap f =
      items.filterMap f := by
  rw [List.filterMap_filter]
  apply List.filterMap_congr
  intro item _
  by_cases hItem : IsRecord item
  · simp [hItem]
  · have hNone : f item = none :=
      Option.eq_none_iff_forall_ne_some.mpr
        (fun a hSome => hItem ((hRead item).mpr ⟨a, hSome⟩))
    simp [hItem, hNone]

/- The same is read from responses that are alike. -/
theorem Alike.filterMap_records
    {α : Type}
    {f : Json → Option α}
    {IsRecord : Json → Prop}
    [DecidablePred IsRecord]
    {response other : Response}
    (hAlike : Alike IsRecord response other)
    (hRead : ∀ item, IsRecord item ↔ ∃ a, f item = some a) :
    response.records.filterMap f = other.records.filterMap f := by
  rw [← filterMap_filter hRead, hAlike.filter_records,
    filterMap_filter hRead]

/-
  What is no record of a node changes no table of nodes, and what
  is no record of an edge changes no table and no key of edges,
  wherever it is put in or taken out, and however the records are
  grouped.
-/
theorem tables_of_alike
    (schema : Schema)
    (response other : Response) :
    (Alike Record.IsNode response other →
        ∀ projection?,
          response.nodeTable schema projection? =
            other.nodeTable schema projection?) ∧
      (Alike Record.IsEdge response other →
        (∀ projection? limit?,
          response.edgeTable projection? limit? =
            other.edgeTable projection? limit?) ∧
          response.edgeKeys schema = other.edgeKeys schema) := by
  refine ⟨?_, ?_⟩
  · intro hAlike projection?
    have hNodes : NodeRecord.all response = NodeRecord.all other :=
      hAlike.filterMap_records (fun _ => Record.isNode_iff)
    unfold nodeTable
    rw [hNodes]
  · intro hAlike
    have hEdges : EdgeRecord.all response = EdgeRecord.all other :=
      hAlike.filterMap_records (fun _ => Record.isEdge_iff)
    refine ⟨?_, ?_⟩
    · intro projection? limit?
      unfold edgeTable
      rw [hEdges]
    · unfold edgeKeys
      rw [hEdges]

/- The record of a user. -/
def userRecord : Json :=
  .object [("id", .string "n1"), ("type", .string "User")]

/- The record of a road. -/
def roadRecord : Json :=
  .object [("from_id", .int 1), ("to_id", .int 2)]

/- A user and a road in one list. -/
def findings : Response :=
  [[("Found", .array [userRecord, roadRecord])]]

/- The user in another list, beside what is no record. -/
def foundUsers : Response :=
  [[],
    [("Amount", .int 1), ("Users", .array [.null, userRecord])]]

/- The road is no node, and the user is no edge. -/
theorem tables_of_alike_findings :
    Alike Record.IsNode findings foundUsers ∧
      findings.nodeTable .users none =
        foundUsers.nodeTable .users none ∧
      Alike Record.IsEdge findings
        [[("Found", .array [roadRecord])]] ∧
      findings.edgeTable none (some 1) =
        Response.edgeTable [[("Found", .array [roadRecord])]]
          none (some 1) := by
  have hRoad :
      Change Record.IsNode [[("Found", .array [userRecord])]]
        findings :=
    .item [] [] [] [] "Found" [userRecord] [] (by decide)
  have hMoved :
      Change Record.IsNode [[("Found", .array [userRecord])]]
        [[("Users", .array [userRecord])]] :=
    .regroup (ordered_single _ _) (ordered_single _ _)
      ((visits_iff (ordered_single _ _)).mpr rfl)
      ((visits_iff (ordered_single _ _)).mpr rfl)
  have hNull :
      Change Record.IsNode [[("Users", .array [userRecord])]]
        [[("Users", .array [.null, userRecord])]] :=
    .item [] [] [] [] "Users" [] [userRecord] (by decide)
  have hAmount :
      Change Record.IsNode [[("Users", .array [.null, userRecord])]]
        [[("Amount", .int 1),
          ("Users", .array [.null, userRecord])]] :=
    .name [] [] [] [_] "Amount" (by simp)
  have hEmpty :
      Change Record.IsNode
        [[("Amount", .int 1),
          ("Users", .array [.null, userRecord])]]
        foundUsers :=
    .set [] _
  have hUser :
      Change Record.IsEdge [[("Found", .array [roadRecord])]]
        findings :=
    .item [] [] [] [] "Found" [] [roadRecord] (by decide)
  have hNodes : Alike Record.IsNode findings foundUsers :=
    .trans _ _ _ (.symm _ _ (.rel _ _ hRoad))
      (.trans _ _ _ (.rel _ _ hMoved)
        (.trans _ _ _ (.rel _ _ hNull)
          (.trans _ _ _ (.rel _ _ hAmount) (.rel _ _ hEmpty))))
  have hEdges :
      Alike Record.IsEdge findings
        [[("Found", .array [roadRecord])]] :=
    .symm _ _ (.rel _ _ hUser)
  exact ⟨hNodes, (tables_of_alike .users _ _).1 hNodes none,
    hEdges, ((tables_of_alike .users _ _).2 hEdges).1 none (some 1)⟩

end Response

end GraphClient
