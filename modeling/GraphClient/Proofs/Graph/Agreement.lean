import GraphClient.Proofs.Graph.Ledger
import GraphClient.Proofs.Graph.Validity
/-
  Batches and single writes.

  Key definitions include:
    * `GraphClient.Store.Works`
    * `GraphClient.Batch.firstError?`
    * `GraphClient.Batch.writeEach`
    * `GraphClient.Batch.Agrees`

  Key theorems include:
    * `GraphClient.Batch.agrees_of_prepare`
    * `GraphClient.Batch.agrees_of_lookup`
    * `GraphClient.Batch.agrees_or_refused`

  In a store in which nothing fails, a batch does what writing
  its items one after the other does, except that it does
  nothing at all when one of them is refused.  Only a batch of
  no items is refused for types that no item would refer to.
-/

------------------------------------------------------------
-- Working Stores
------------------------------------------------------------

namespace GraphClient

namespace Store

/- No verb has been made to fail. -/
def Works
    (s : Store) :
    Prop :=
  ∀ verb, s.failure? verb = none

/- A call to a working store does what it asks for. -/
theorem Works.run_attempt
    {s : Store}
    (hWorks : s.Works)
    (call : Call) :
    (Operation.always (.attempt call)).run service s =
      (.ok (some (s.perform call).1), (s.perform call).2) := by
  rw [Store.run_attempt, hWorks]

end Store

end GraphClient

------------------------------------------------------------
-- One After the Other
------------------------------------------------------------

namespace GraphClient

namespace Batch

variable {κ : Type}

/- The error of the first item whose write is refused. -/
def firstError?
    (s : Store)
    (write : κ × Bag → Operation (Option Nat))
    (items : List (κ × Bag)) :
    Option GraphError :=
  items.findSome? (fun item =>
    Operation.errorOf? ((write item).run Store.service s).1)

/- The store after items have been written one by one. -/
def writeEach
    (s : Store)
    (write : κ × Bag → Operation (Option Nat))
    (items : List (κ × Bag)) :
    Store :=
  items.foldl
    (fun t item => ((write item).run Store.service t).2) s

/-
  A batch has the error of the first item that is refused, and
  leaves the store as it was; or it has the number of its items,
  and leaves what writing them one by one leaves.
-/
def Agrees
    (s : Store)
    (batch : Operation (Option Nat))
    (write : κ × Bag → Operation (Option Nat))
    (items : List (κ × Bag)) :
    Prop :=
  match firstError? s write items with
  | some e => batch.run Store.service s = (.error e, s)
  | none =>
      batch.run Store.service s =
        (.ok (some items.length), writeEach s write items)

end Batch

end GraphClient

------------------------------------------------------------
-- Checks Before Writes
------------------------------------------------------------

namespace GraphClient

/- Two checks in a row are required one after the other. -/
theorem Operation.require_bind
    {α β γ ε : Type}
    (cause : ε → GraphError)
    (check : Except ε α)
    (next : α → Except ε β)
    (last : β → Operation γ) :
    require cause (check >>= next) last =
      require cause check (fun a => require cause (next a) last) := by
  cases check <;> rfl

namespace Batch

variable {κ : Type}

/- A write of an item that is checked before it is sent. -/
def checked
    (check : Bag → Except SchemaError Unit)
    (send : κ × Bag → Operation (Option Nat))
    (item : κ × Bag) :
    Operation (Option Nat) :=
  Operation.require .schema (check item.2) (fun _ => send item)

/- What is sent to a working store is put there. -/
structure Puts
    (send : κ × Bag → Operation (Option Nat))
    (put : Store → κ × Bag → Store) :
    Prop where
  run : ∀ item (s : Store), s.Works →
    (send item).run Store.service s = (.ok (some 1), put s item)
  works : ∀ item (s : Store), s.Works → (put s item).Works

variable {send : κ × Bag → Operation (Option Nat)}
variable {put : Store → κ × Bag → Store}

/- The first item that does not pass is the first refused. -/
theorem firstError?_checked
    (check : Bag → Except SchemaError Unit)
    (hPuts : Puts send put)
    {s : Store}
    (hWorks : s.Works)
    (items : List (κ × Bag)) :
    firstError? s (checked check send) items =
      match checkAll check items with
      | .ok _ => none
      | .error e => some (.schema e) := by
  induction items with
  | nil => rfl
  | cons item rest ih =>
      unfold firstError? at ih ⊢
      rw [List.findSome?_cons, ih, checkAll, checked]
      cases check item.2 with
      | error e => rfl
      | ok u =>
          rw [Operation.require_of_ok rfl, hPuts.run item s hWorks]
          rfl

/- Items that pass are put into the store one by one. -/
theorem writeEach_checked
    {check : Bag → Except SchemaError Unit}
    (hPuts : Puts send put)
    {items : List (κ × Bag)}
    (hCheck : checkAll check items = .ok ())
    {s : Store}
    (hWorks : s.Works) :
    writeEach s (checked check send) items = items.foldl put s := by
  induction items generalizing s with
  | nil => rfl
  | cons item rest ih =>
      rcases Checks.next_eq_ok_iff.mp hCheck with ⟨hItem, hRest⟩
      unfold writeEach at ih ⊢
      rw [List.foldl_cons, checked, Operation.require_of_ok hItem,
        hPuts.run item s hWorks]
      -- the next items are written to a store that works as well
      exact ih hRest (hPuts.works item s hWorks)

/-
  A batch agrees with single writes when the same check precedes
  both, and it is put into the store item by item.
-/
theorem agrees_of_prepare
    (check : Bag → Except SchemaError Unit)
    (hPuts : Puts send put)
    {sendAll : List (κ × Bag) → Operation (Option Nat)}
    {s : Store}
    (hWorks : s.Works)
    (hAll : ∀ batch,
      (sendAll batch).run Store.service s =
        (.ok (some batch.length), batch.foldl put s))
    (common : Bag)
    (items : List (κ × Bag)) :
    Agrees s
      (Operation.require .schema (prepare check common items) sendAll)
      (checked check send) (merged common items) := by
  unfold Agrees
  rw [firstError?_checked check hPuts hWorks, prepare_eq]
  cases hCheck : checkAll check (merged common items) with
  | error e => rfl
  | ok u =>
      rw [writeEach_checked hPuts hCheck hWorks]
      exact hAll (merged common items)

/-
  A batch agrees with single writes when all of them look up the
  same first, unless there is nothing to find for no items.
-/
theorem agrees_of_lookup
    {α : Type}
    {lookup : Except SchemaError α}
    {batch : α → Operation (Option Nat)}
    {write : α → κ × Bag → Operation (Option Nat)}
    {items : List (κ × Bag)}
    {s : Store}
    (hAgrees :
      ∀ a, lookup = .ok a → Agrees s (batch a) (write a) items)
    (hSome : items ≠ [] ∨ ∃ a, lookup = .ok a) :
    Agrees s (Operation.require .schema lookup batch)
      (fun item =>
        Operation.require .schema lookup (fun a => write a item))
      items := by
  cases lookup with
  | ok a => exact hAgrees a rfl
  | error e =>
      -- each write is refused for the same reason, so the first is
      cases items with
      | nil => simp at hSome
      | cons item rest => rfl

end Batch

end GraphClient

------------------------------------------------------------
-- Nodes and Edges
------------------------------------------------------------

namespace GraphClient

namespace Batch

/- A node that is written to a working store is put there. -/
theorem puts_node
    (type : String) :
    Puts
      (fun item : String × Bag =>
        Operation.always
          (.attempt (.upsertNode ⟨type, item.1⟩ item.2)))
      (fun s item => s.putNode ⟨type, item.1⟩ item.2) where
  run := fun item _ hWorks =>
    hWorks.run_attempt (.upsertNode ⟨type, item.1⟩ item.2)
  works := fun _ _ hWorks => hWorks

/- An edge that is written to a working store is put there. -/
theorem puts_edge
    (route : Route) :
    Puts
      (fun item : Ends × Bag =>
        Operation.always
          (.attempt (.upsertEdge ⟨route, item.1⟩ item.2)))
      (fun s item => s.putEdge ⟨route, item.1⟩ item.2) where
  run := fun item _ hWorks =>
    hWorks.run_attempt (.upsertEdge ⟨route, item.1⟩ item.2)
  works := fun _ _ hWorks => hWorks

/- Common values leave a batch as long as it is. -/
theorem merged_ne_nil
    {κ : Type}
    {items : List (κ × Bag)}
    (common : Bag)
    (hItems : items ≠ []) :
    merged common items ≠ [] := by
  intro hNone
  exact hItems (List.map_eq_nil_iff.mp hNone)

variable {s : Store}

/- A batch of nodes agrees with single writes. -/
theorem agrees_nodes
    (g : Graph)
    (hWorks : s.Works)
    {type : String}
    {items : List (String × Bag)}
    (hSome : items ≠ [] ∨ ∃ found, g.schema.node type = .ok found)
    (common : Bag) :
    Agrees s (Graph.Exact.addNodes g type items common)
      (fun item => Graph.Exact.addNode g ⟨type, item.1⟩ item.2)
      (merged common items) := by
  simp only [Graph.Exact.addNodes, nodes, Graph.Exact.addNode,
    Operation.require_bind]
  apply agrees_of_lookup
  · intro nodeType _
    exact agrees_of_prepare (nodeType.checkBag type)
      (puts_node type) hWorks
      (fun batch => hWorks.run_attempt (.upsertNodes type batch))
      common items
  · exact hSome.imp_left (merged_ne_nil common)

/- A batch of edges agrees with single writes. -/
theorem agrees_edges
    (g : Graph)
    (hWorks : s.Works)
    (route : Route)
    (items : List (Ends × Bag))
    (common : Bag) :
    Agrees s (Graph.Exact.addEdges g route items common)
      (fun item => Graph.Exact.addEdge g ⟨route, item.1⟩ item.2)
      (merged common items) :=
  agrees_of_prepare (checkEdge g.schema route.edge)
    (puts_edge route) hWorks
    (fun batch => hWorks.run_attempt (.upsertEdges route batch))
    common items

end Batch

end GraphClient

------------------------------------------------------------
-- Main Result
------------------------------------------------------------

namespace GraphClient

namespace Batch

/-
  In a working store, batches of nodes and of edges agree with
  single writes of their items, the common values over their
  own, whether types are given by name or by reference.  Where
  types are looked up they are looked up for a batch of no items
  as well: this batch is refused if they are not found.
-/
theorem agrees_or_refused
    (g : Graph)
    (s : Store)
    (hWorks : s.Works) :
    (∀ (type : String) (items : List (String × Bag)) (common : Bag),
      (items ≠ [] ∨ type ∈ g.schema.nodes.keys →
        Agrees s (Graph.Exact.addNodes g type items common)
          (fun item => Graph.Exact.addNode g ⟨type, item.1⟩ item.2)
          (merged common items)) ∧
        ∀ e, g.schema.node type = .error e →
          (Graph.Exact.addNodes g type items common).run
              Store.service s =
            (.error (.schema e), s)) ∧
      (∀ (route : Route) (items : List (Ends × Bag)) (common : Bag),
        Agrees s (Graph.Exact.addEdges g route items common)
          (fun item => Graph.Exact.addEdge g ⟨route, item.1⟩ item.2)
          (merged common items)) ∧
      (∀ (type : TypeRef) (items : List (String × Bag))
          (common : Bag),
        (items ≠ [] ∨ g.schema.ResolvesNode type →
          Agrees s (g.addNodes items type common)
            (fun item => g.addNode item.1 type item.2)
            (merged common items)) ∧
          ∀ e, g.schema.resolveNode type = .error e →
            (g.addNodes items type common).run Store.service s =
              (.error (.schema e), s)) ∧
      ∀ (types : RouteRef) (items : List (Ends × Bag))
          (common : Bag),
        (items ≠ [] ∨ g.schema.ResolvesRoute types →
          Agrees s (g.addEdges items types common)
            (fun item => g.addEdge item.1 types item.2)
            (merged common items)) ∧
          ∀ e, g.schema.resolveRoute types = .error e →
            (g.addEdges items types common).run Store.service s =
              (.error (.schema e), s) := by
  refine ⟨?_, agrees_edges g hWorks, ?_, ?_⟩
  · intro type items common
    constructor
    · intro hSome
      apply agrees_nodes g hWorks
      apply hSome.imp_right
      intro hDefined
      have hContains := (g.schema.nodes.contains_iff type).mpr hDefined
      rcases Option.isSome_iff_exists.mp hContains with
        ⟨nodeType, hType⟩
      exact ⟨nodeType, Schema.node_eq_ok_iff.mpr hType⟩
    · intro e hError
      simp only [Graph.Exact.addNodes, nodes, hError]
      rfl
  · intro type items common
    constructor
    · intro hSome
      apply agrees_of_lookup
      · intro name hName
        rcases Schema.exists_node_of_resolve hName with
          ⟨nodeType, hType⟩
        exact agrees_nodes g hWorks
          (Or.inr ⟨nodeType, Schema.node_eq_ok_iff.mpr hType⟩) common
      · exact hSome.imp_left (merged_ne_nil common)
    · intro e hError
      simp only [Graph.addNodes, Graph.withNodeType, hError]
      rfl
  · intro types items common
    constructor
    · intro hSome
      apply agrees_of_lookup
      · exact fun route _ => agrees_edges g hWorks route items common
      · exact hSome.imp_left (merged_ne_nil common)
    · intro e hError
      simp only [Graph.addEdges, Graph.withRoute, hError]
      rfl

/-
  No node would be refused, as there is none, and still a batch
  of no nodes is, as nothing is found for its type.
-/
theorem empty_batch_refused :
    (Graph.Exact.addNodes .acquaintance "Ghost" [] .empty).run
          Store.service .empty =
        (.error (.schema (.unknownType .node "Ghost")), .empty) ∧
      ¬ Agrees .empty
        (Graph.Exact.addNodes .acquaintance "Ghost" [] .empty)
        (fun item =>
          Graph.Exact.addNode .acquaintance ⟨"Ghost", item.1⟩ item.2)
        [] := by
  have hRefused :
      (Graph.Exact.addNodes .acquaintance "Ghost" [] .empty).run
          Store.service .empty =
        (.error (.schema (.unknownType .node "Ghost")), .empty) :=
    rfl
  refine ⟨hRefused, ?_⟩
  intro hAgrees
  change (Graph.Exact.addNodes .acquaintance "Ghost" [] .empty).run
      Store.service .empty =
    (.ok (some 0), .empty) at hAgrees
  rw [hRefused] at hAgrees
  cases hAgrees

/-
  A person is written twice: the common age wins over an own one
  that would be refused, and the last write stays.  Without it
  the batch has the error of the second item.
-/
theorem agrees_or_refused_acquaintance :
    (Graph.acquaintance.addNodes
          [("ann", .ofList [("age", .string "old")]),
            ("ann", .empty)]
          none (.ofList [("age", .int 7)])).run
        Store.service .empty =
        (.ok (some 2),
          (Store.empty.putNode ⟨"Person", "ann"⟩
            (.ofList [("age", .int 7)]))) ∧
      (Graph.acquaintance.addNodes
          [("ann", .empty),
            ("bob", .ofList [("age", .string "old")]),
            ("cy", .ofList [("name", .int 1)])]
          (some "Person") .empty).run Store.service .empty =
        (.error (.schema (.invalidValue "age" .int (.string "old"))),
          .empty) ∧
      (Graph.acquaintance.addEdges
          [(⟨"ann", "bob"⟩, .empty), (⟨"ann", "bob"⟩, .empty)]
          ⟨none, none, none⟩ (.ofList [("since", .int 2001)])).run
        Store.service .empty =
        (.ok (some 2),
          ((Store.empty.putEdge
              ⟨⟨"Person", "Knows", "Person"⟩, ⟨"ann", "bob"⟩⟩
              (.ofList [("since", .int 2001)])).putEdge
            ⟨⟨"Person", "Knows", "Person"⟩, ⟨"ann", "bob"⟩⟩
            (.ofList [("since", .int 2001)]))) := by
  rcases agrees_or_refused .acquaintance .empty (fun _ => rfl) with
    ⟨_, _, hNodes, hEdges⟩
  refine ⟨?_, ?_, ?_⟩
  · have hAgrees := (hNodes none
      [("ann", .ofList [("age", .string "old")]), ("ann", .empty)]
      (.ofList [("age", .int 7)])).1 (Or.inl (by simp))
    exact hAgrees
  · have hAgrees := (hNodes (some "Person")
      [("ann", .empty), ("bob", .ofList [("age", .string "old")]),
        ("cy", .ofList [("name", .int 1)])]
      .empty).1 (Or.inl (by simp))
    exact hAgrees
  · have hAgrees := (hEdges ⟨none, none, none⟩
      [(⟨"ann", "bob"⟩, .empty), (⟨"ann", "bob"⟩, .empty)]
      (.ofList [("since", .int 2001)])).1 (Or.inl (by simp))
    exact hAgrees

end Batch

end GraphClient
