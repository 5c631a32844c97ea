import GraphClient.Proofs.Graph.Ledger
import GraphClient.Proofs.OrderedMap
import GraphClient.Proofs.Schema.Values
/-
  Common values over own ones, and how both are checked.

  Key definitions include:
    * `GraphClient.Bag.ChecksMerged`
    * `GraphClient.Batch.SendsMerged`

  Key theorems include:
    * `GraphClient.Bag.checksMerged_of_decides`
    * `GraphClient.Batch.decides_prepare`
    * `GraphClient.Batch.merged_values_checked`

  A common value takes the place of an own one, so an own value
  that would not fit does no harm under a common name.  What is
  checked is what is sent, in one order: own names come first,
  and the first entry that does not fit is the one reported.
-/

------------------------------------------------------------
-- Merged Bags
------------------------------------------------------------

namespace GraphClient

open Requirement

/-
  How a check treats own values under common ones: the common
  ones have to fit, and of the own ones those under other names;
  otherwise the first one that does not fit is reported, in the
  order of the merged bag.
-/
structure Bag.ChecksMerged
    (typeName : String)
    (attributes : OrderedMap AttributeType)
    (check : Bag → Except SchemaError Unit) :
    Prop where
  accepts : ∀ own common : Bag,
    check (own.override common) = .ok () ↔
      (∀ entry ∈ common.entries,
          AttributeType.Fits attributes entry) ∧
        ∀ entry ∈ own.entries, entry.1 ∉ common.keys →
          AttributeType.Fits attributes entry
  refuses : ∀ (own common : Bag) (e : SchemaError),
    check (own.override common) = .error e ↔
      FirstUnmet
        (requirements typeName attributes (own.override common)) e

/- A check that requires all values to fit treats them so. -/
theorem Bag.checksMerged_of_decides
    {typeName : String}
    {attributes : OrderedMap AttributeType}
    {check : Bag → Except SchemaError Unit}
    (hCheck : ∀ bag : Bag,
      Decides (bag.requirements typeName attributes)
        (fun _ => True) (check bag)) :
    ChecksMerged typeName attributes check where
  accepts own common := by
    have hAll :
        AllMet
            (requirements typeName attributes
              (own.override common)) ↔
          ∀ entry ∈ (own.override common).entries,
            AttributeType.Fits attributes entry :=
      List.forall_mem_map
    rw [(hCheck _).eq_ok_iff (fun _ _ => rfl), and_true, hAll]
    simp only [OrderedMap.mem_override_iff, or_imp, and_imp,
      forall_and]
  refuses own common _ := (hCheck (own.override common)).eq_error_iff

end GraphClient

------------------------------------------------------------
-- Batches
------------------------------------------------------------

namespace GraphClient

open Requirement

namespace Batch

variable {κ : Type}
variable {typeName : String}
variable {attributes : OrderedMap AttributeType}

/- What is required of the items of a batch, in order. -/
def requirements
    (typeName : String)
    (attributes : OrderedMap AttributeType)
    (items : List (κ × Bag)) :
    List (Requirement SchemaError) :=
  items.flatMap (fun item =>
    Bag.requirements typeName attributes item.2)

/- Items are decided by what is required of each, in order. -/
theorem decides_checkAll
    {check : Bag → Except SchemaError Unit}
    (hCheck : ∀ bag : Bag,
      Decides (bag.requirements typeName attributes)
        (fun _ => True) (check bag))
    (items : List (κ × Bag)) :
    Decides (requirements typeName attributes items)
      (fun _ => True) (checkAll check items) := by
  induction items with
  | nil => exact .nil rfl trivial
  | cons item rest ih =>
      exact (hCheck item.2).bind fun _ _ => ih

/- A batch requires that the values of its merged items fit. -/
theorem decides_prepare
    {check : Bag → Except SchemaError Unit}
    (hCheck : ∀ bag : Bag,
      Decides (bag.requirements typeName attributes)
        (fun _ => True) (check bag))
    (common : Bag)
    (items : List (κ × Bag)) :
    Decides
      (requirements typeName attributes (merged common items))
      (fun batch => batch = merged common items)
      (prepare check common items) := by
  have hAll := decides_checkAll hCheck (merged common items)
  rw [prepare_eq]
  exact hAll.map (fun _ => rfl) (fun _ _ => rfl)

/-
  A batch sends the merged items in one call when all of their
  values fit, and is refused before any call for the first one
  that does not.
-/
structure SendsMerged
    (typeName : String)
    (attributes : OrderedMap AttributeType)
    (common : Bag)
    (items : List (κ × Bag))
    (send : List (κ × Bag) → Call)
    (batch : Operation (Option Nat)) :
    Prop where
  sends :
    AllMet
        (requirements typeName attributes (merged common items)) →
      ∀ {σ : Type} (service : Service σ) (s : σ),
        batch.calls service s = [send (merged common items)]
  refuses : ∀ e,
    FirstUnmet
        (requirements typeName attributes (merged common items)) e →
      batch = Operation.fail (.schema e)

/- What is prepared by such a check is sent. -/
theorem sendsMerged_of_decides
    {check : Except SchemaError (List (κ × Bag))}
    {common : Bag}
    {items : List (κ × Bag)}
    {send : List (κ × Bag) → Call}
    {next : List (κ × Bag) → Operation (Option Nat)}
    (hCheck :
      Decides
        (requirements typeName attributes (merged common items))
        (fun batch => batch = merged common items) check)
    (hNext : ∀ batch {σ : Type} (service : Service σ) (s : σ),
      (next batch).calls service s = [send batch]) :
    SendsMerged typeName attributes common items send
      (Operation.require .schema check next) where
  sends hAll _ service s := by
    rcases hCheck.accepts hAll with ⟨_, rfl, rfl⟩
    exact hNext _ service s
  refuses e hFirst := by
    rw [hCheck.refuses e hFirst]
    rfl

end Batch

end GraphClient

------------------------------------------------------------
-- Main Result
------------------------------------------------------------

namespace GraphClient

open Requirement

namespace Batch

/-
  A merged bag has the own names in their order, and then the
  common ones that are new in theirs, each with the common value
  if there is one.  Types of nodes and of edges check it alike:
  common values have to fit, and own ones under other names; the
  first one in the merged order that does not is reported.  What
  a batch checks in this way for each item is what it sends.
-/
theorem merged_values_checked :
    (∀ own common : Bag,
      (own.override common).keys =
          own.keys ++
            common.keys.filter (fun name => name ∉ own.keys) ∧
        ∀ name,
          (own.override common).get? name =
            (common.get? name).or (own.get? name)) ∧
      (∀ (type : NodeType) (typeName : String),
        Bag.ChecksMerged typeName type.attributes
          (type.checkBag typeName)) ∧
      (∀ (type : EdgeType) (typeName : String),
        Bag.ChecksMerged typeName type.attributes
          (type.checkBag typeName)) ∧
      (∀ (g : Graph) (typeName : String) (type : NodeType),
        g.schema.nodes.get? typeName = some type →
          ∀ (items : List (String × Bag)) (common : Bag),
            SendsMerged typeName type.attributes common items
              (.upsertNodes typeName)
              (Graph.Exact.addNodes g typeName items common)) ∧
      ∀ (g : Graph) (route : Route) (type : EdgeType),
        g.schema.edges.get? route.edge = some type →
          ∀ (items : List (Ends × Bag)) (common : Bag),
            SendsMerged route.edge type.attributes common items
              (.upsertEdges route)
              (Graph.Exact.addEdges g route items common) := by
  refine ⟨?_, ?_, ?_, ?_, ?_⟩
  · intro own common
    exact ⟨own.keys_override common, own.get?_override common⟩
  · intro type typeName
    exact Bag.checksMerged_of_decides
      (type.decides_checkBag typeName)
  · intro type typeName
    exact Bag.checksMerged_of_decides
      (type.decides_checkBag typeName)
  · intro g typeName type hType items common
    apply sendsMerged_of_decides
    · unfold nodes
      rw [Schema.node_eq_ok_iff.mpr hType]
      exact decides_prepare (type.decides_checkBag typeName)
        common items
    · exact fun _ _ _ _ => rfl
  · intro g route type hType items common
    have hCheck (bag : Bag) :
        checkEdge g.schema route.edge bag =
          type.checkBag route.edge bag := by
      unfold checkEdge
      rw [Schema.edge_eq_ok_iff.mpr hType]
      rfl
    apply sendsMerged_of_decides
    · apply decides_prepare
      intro bag
      rw [hCheck]
      exact type.decides_checkBag route.edge bag
    · exact fun _ _ _ _ => rfl

/-
  An own age that is no number does no harm under a common one,
  but is reported without it, before a name that nobody has.
-/
theorem merged_values_checked_person :
    (Graph.Exact.addNodes .acquaintance "Person"
          [("ann", .ofList
            [("age", .string "old"), ("id", .string "a")])]
          (.ofList [("age", .int 7)])).calls
        Store.service .empty =
        [.upsertNodes "Person"
          [("ann", .ofList
            [("age", .int 7), ("id", .string "a")])]] ∧
      NodeType.person.checkBag "Person"
          (OrderedMap.override
            (.ofList [("age", .string "old")])
            (.ofList [("height", .int 2)])) =
        .error (.invalidValue "age" .int (.string "old")) := by
  rcases merged_values_checked with ⟨_, hNodes, _, hBatch, _⟩
  constructor
  · apply (hBatch .acquaintance "Person" .person rfl
      [("ann", .ofList
        [("age", .string "old"), ("id", .string "a")])]
      (.ofList [("age", .int 7)])).sends
    have hAge :
        AttributeType.Fits NodeType.person.attributes
          ("age", .int 7) :=
      ⟨.plain .int, rfl, rfl⟩
    have hId :
        AttributeType.Fits NodeType.person.attributes
          ("id", .string "a") :=
      ⟨.plain .string, rfl, rfl⟩
    exact List.forall_mem_cons.mpr
      ⟨hAge, List.forall_mem_singleton.mpr hId⟩
  · apply ((hNodes .person "Person").refuses _ _ _).mpr
    apply firstUnmet_cons.mpr
    refine Or.inl ⟨?_, rfl⟩
    rintro ⟨type, hType, hAccepts⟩
    cases hType
    cases hAccepts

end Batch

end GraphClient
