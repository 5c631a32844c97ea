import GraphClient.Graph.Administration
import GraphClient.Graph.Counts
import GraphClient.Graph.Edges
import GraphClient.Graph.Queries
import GraphClient.Proofs.Graph.Batches
import GraphClient.Proofs.Remote.Contents
import GraphClient.Proofs.Schema.References
/-
  The operations on a graph as one type.

  Key definitions include:
    * `GraphClient.Action`
    * `GraphClient.Action.Result`
    * `GraphClient.Action.conversation`
    * `GraphClient.Action.writes`

  Key theorems include:
    * `GraphClient.Action.reads_only`
    * `GraphClient.Graph.addNode_cases`
    * `GraphClient.Graph.addNodes_cases`
    * `GraphClient.Graph.addEdge_cases`
    * `GraphClient.Graph.addEdges_cases`

  An action is an operation with its arguments.  A write either
  ends before its first call or is one attempt to make a call
  whose types have been resolved and whose values have been
  checked.
-/

------------------------------------------------------------
-- Actions
------------------------------------------------------------

namespace GraphClient

/- An operation on a graph, with its arguments. -/
inductive Action
| addNode (id : String) (type : TypeRef) (bag : Bag)
| addNodes
    (nodes : List (String × Bag)) (type : TypeRef) (common : Bag)
| removeNode (id : String) (type : TypeRef)
| hasNode (id : String) (type : TypeRef)
| nodeData (id : String) (type : TypeRef)
| nodeEdges
    (id : String) (type : TypeRef) (edgeTypes : List String)
| clear
| addEdge (ends : Ends) (types : RouteRef) (bag : Bag)
| addEdges
    (edges : List (Ends × Bag)) (types : RouteRef) (common : Bag)
| hasEdge (ends : Ends) (types : RouteRef)
| edgeData (ends : Ends) (types : RouteRef)
| degree
    (id : String) (type : TypeRef) (edgeTypes : List String)
| nodeCount (type : TypeRef)
| edgeCount (type : TypeRef)
| runQuery (name : String) (parameters : Parameters)
| nodes (type : TypeRef)
| neighbors (startNodes : List String) (type : TypeRef)
| edges (type : TypeRef)
| findNodes (request : NodeRequest)
| findNeighbors (request : NeighborRequest)
| findEdges (request : EdgeRequest)
| createSchema (dropsExisting : Bool)
| drop
| installQueries

namespace Action

/- What an action ends with. -/
@[reducible]
def Result : Action → Type
| .addNode _ _ _ => Except GraphError (Option Nat)
| .addNodes _ _ _ => Except GraphError (Option Nat)
| .removeNode _ _ => Except GraphError Bool
| .hasNode _ _ => Except GraphError Bool
| .nodeData _ _ => Except GraphError (Option (Entries Json))
| .nodeEdges _ _ _ => Except GraphError (List EdgeKey)
| .clear => Bool
| .addEdge _ _ _ => Except GraphError (Option Nat)
| .addEdges _ _ _ => Except GraphError (Option Nat)
| .hasEdge _ _ => Except GraphError Bool
| .edgeData _ _ => Except GraphError (Option (Entries Json))
| .degree _ _ _ => Except GraphError Nat
| .nodeCount _ => Except GraphError Nat
| .edgeCount _ => Except GraphError Nat
| .runQuery _ _ => Option Response
| .nodes _ => Except GraphError Table
| .neighbors _ _ => Except GraphError Table
| .edges _ => Except GraphError Table
| .findNodes _ => Except GraphError Table
| .findNeighbors _ => Except GraphError Table
| .findEdges _ => Except GraphError Table
| .createSchema _ => Except GraphError Unit
| .drop => Except GraphError Unit
| .installQueries => Except GraphError Unit

/- The conversation of an action. -/
def conversation
    (g : Graph) :
    (action : Action) → Conversation action.Result
| .addNode id type bag => g.addNode id type bag
| .addNodes items type common => g.addNodes items type common
| .removeNode id type => g.removeNode id type
| .hasNode id type => g.hasNode id type
| .nodeData id type => g.nodeData id type
| .nodeEdges id type edgeTypes => g.nodeEdges id type edgeTypes
| .clear => g.clear
| .addEdge ends types bag => g.addEdge ends types bag
| .addEdges items types common => g.addEdges items types common
| .hasEdge ends types => g.hasEdge ends types
| .edgeData ends types => g.edgeData ends types
| .degree id type edgeTypes => g.degree id type edgeTypes
| .nodeCount type => g.nodeCount type
| .edgeCount type => g.edgeCount type
| .runQuery name parameters => Graph.runQuery name parameters
| .nodes type => g.nodes type
| .neighbors startNodes type => g.neighbors startNodes type
| .edges type => g.edges type
| .findNodes request => g.findNodes request
| .findNeighbors request => g.findNeighbors request
| .findEdges request => g.findEdges request
| .createSchema dropsExisting => g.createSchema dropsExisting
| .drop => g.drop
| .installQueries => g.installQueries

/- Whether an action is there to change nodes or edges. -/
def writes : Action → Bool
| .addNode _ _ _ => true
| .addNodes _ _ _ => true
| .removeNode _ _ => true
| .clear => true
| .addEdge _ _ _ => true
| .addEdges _ _ _ => true
| _ => false

end Action

end GraphClient

------------------------------------------------------------
-- Reading
------------------------------------------------------------

namespace GraphClient

namespace Graph

variable {p : Call → Prop}

/- A table takes one interpreted query. -/
theorem asks_tabulate
    {query : Except CompileError Query}
    {table : Response → Table}
    (hRun :
      ∀ script parameters, p (.runInterpreted script parameters)) :
    (tabulate query table).Asks p := by
  apply Operation.asks_require
  intro query _
  refine ⟨hRun _ _, ?_⟩
  intro o
  cases o <;> trivial

/- A command is one call. -/
theorem asks_command
    {α : Type}
    {text : String}
    {judge : String → Except GraphError α}
    (hRun : p (.runCommand text)) :
    (command text judge).Asks p := by
  refine ⟨hRun, ?_⟩
  intro o
  cases o <;> trivial

/- Counting makes the calls of its parts. -/
theorem asks_sumCounts
    {count : String → Conversation (Option Nat)}
    (hCount : ∀ type, (count type).Asks p)
    (types : List String) :
    (sumCounts count types).Asks p := by
  induction types with
  | nil => trivial
  | cons type types ih =>
      apply Conversation.asks_andThen (hCount type)
      intro n
      exact Conversation.asks_map ih

/- Looking for attributes makes no further calls. -/
theorem asks_attributesOf
    (missing : GraphError)
    (o : Except RemoteError (List Json)) :
    (Exact.attributesOf missing o).Asks p := by
  cases o with
  | ok records => trivial
  | error e =>
      unfold Exact.attributesOf
      by_cases hMissing : e.isNotFound = true
      · simp only [hMissing, if_true]
        trivial
      · simp only [hMissing]
        trivial

end Graph

namespace Action

/- What is not there to change nodes or edges makes no writes. -/
theorem reads_only
    (g : Graph)
    {action : Action}
    (hReads : action.writes = false) :
    (action.conversation g).Asks
      (fun call => call.writes = false) := by
  cases action with
  | addNode id type bag => cases hReads
  | addNodes nodes type common => cases hReads
  | removeNode id type => cases hReads
  | clear => cases hReads
  | addEdge ends types bag => cases hReads
  | addEdges edges types common => cases hReads
  | hasNode id type =>
      apply Operation.asks_require
      intro name _
      refine Conversation.asks_map ⟨rfl, ?_⟩
      intro o
      cases o <;> trivial
  | nodeData id type =>
      apply Operation.asks_require
      intro name _
      exact ⟨rfl, Graph.asks_attributesOf _⟩
  | nodeEdges id type edgeTypes =>
      apply Operation.asks_require
      intro name _
      apply Operation.asks_require
      intro query _
      refine ⟨rfl, ?_⟩
      intro o
      cases o <;> trivial
  | hasEdge ends types =>
      apply Operation.asks_require
      intro route _
      refine Conversation.asks_map ⟨rfl, ?_⟩
      intro o
      cases o <;> trivial
  | edgeData ends types =>
      apply Operation.asks_require
      intro route _
      exact ⟨rfl, Graph.asks_attributesOf _⟩
  | degree id type edgeTypes =>
      apply Operation.asks_require
      intro name _
      refine ⟨rfl, ?_⟩
      intro o
      cases o <;> trivial
  | nodeCount type =>
      apply Operation.asks_require
      intro types _
      apply Conversation.asks_map
      apply Graph.asks_sumCounts
      intro t
      exact ⟨rfl, fun _ => trivial⟩
  | edgeCount type =>
      apply Operation.asks_require
      intro types _
      apply Conversation.asks_map
      apply Graph.asks_sumCounts
      intro t
      exact ⟨rfl, fun _ => trivial⟩
  | runQuery name parameters =>
      exact Conversation.asks_attempt rfl
  | nodes type =>
      apply Operation.asks_require
      intro request _
      exact Graph.asks_tabulate (fun _ _ => rfl)
  | neighbors startNodes type =>
      apply Operation.asks_require
      intro request _
      exact Graph.asks_tabulate (fun _ _ => rfl)
  | edges type =>
      apply Operation.asks_require
      intro request _
      exact Graph.asks_tabulate (fun _ _ => rfl)
  | findNodes request =>
      exact Graph.asks_tabulate (fun _ _ => rfl)
  | findNeighbors request =>
      exact Graph.asks_tabulate (fun _ _ => rfl)
  | findEdges request =>
      exact Graph.asks_tabulate (fun _ _ => rfl)
  | createSchema dropsExisting =>
      have hCreate : g.createTypes.Asks
          (fun call => call.writes = false) :=
        Graph.asks_command rfl
      cases dropsExisting with
      | false => exact hCreate
      | true =>
          exact Conversation.asks_andThen
            (Graph.asks_command rfl) (fun _ => hCreate)
  | drop => exact Graph.asks_command rfl
  | installQueries => exact Graph.asks_command rfl

end Action

end GraphClient

------------------------------------------------------------
-- Writing
------------------------------------------------------------

namespace GraphClient

namespace Graph

variable {α : Type}

/- A reference to a node type is refused or resolved. -/
theorem withNodeType_cases
    (g : Graph)
    (type : TypeRef)
    (next : String → Operation α) :
    (∃ e, g.withNodeType type next = Operation.fail (.schema e)) ∨
      ∃ name,
        g.schema.resolveNode type = .ok name ∧
          g.withNodeType type next = next name := by
  unfold withNodeType
  cases hResolve : g.schema.resolveNode type with
  | ok name => exact Or.inr ⟨name, rfl, rfl⟩
  | error e => exact Or.inl ⟨e, rfl⟩

/- References to the types of an edge are refused or resolved. -/
theorem withRoute_cases
    (g : Graph)
    (types : RouteRef)
    (next : Route → Operation α) :
    (∃ e, g.withRoute types next = Operation.fail (.schema e)) ∨
      ∃ route,
        g.schema.resolveRoute types = .ok route ∧
          g.withRoute types next = next route := by
  unfold withRoute
  cases hResolve : g.schema.resolveRoute types with
  | ok route => exact Or.inr ⟨route, rfl, rfl⟩
  | error e => exact Or.inl ⟨e, rfl⟩

/- A node is refused, or its write is attempted. -/
theorem addNode_cases
    (g : Graph)
    (id : String)
    (type : TypeRef)
    (bag : Bag) :
    (∃ e, g.addNode id type bag = Operation.fail (.schema e)) ∨
      ∃ name nodeType,
        g.schema.resolveNode type = .ok name ∧
          g.schema.nodes.get? name = some nodeType ∧
          nodeType.checkBag name bag = .ok () ∧
          g.addNode id type bag =
            Operation.always
              (.attempt (.upsertNode ⟨name, id⟩ bag)) := by
  rcases g.withNodeType_cases type
      (fun name => Exact.addNode g ⟨name, id⟩ bag) with
    ⟨e, hRefused⟩ | ⟨name, hResolve, hNext⟩
  · exact Or.inl ⟨e, hRefused⟩
  · unfold addNode
    rw [hNext]
    unfold Exact.addNode
    cases hCheck :
        (do (← g.schema.node name).checkBag name bag :
          Except SchemaError Unit) with
    | error e => exact Or.inl ⟨e, rfl⟩
    | ok u =>
        rcases Checks.bind_eq_ok_iff.mp hCheck with
          ⟨nodeType, hType, hBag⟩
        exact Or.inr ⟨name, nodeType, hResolve,
          Schema.node_eq_ok_iff.mp hType, hBag, rfl⟩

/- A batch of nodes is refused, or its write is attempted. -/
theorem addNodes_cases
    (g : Graph)
    (items : List (String × Bag))
    (type : TypeRef)
    (common : Bag) :
    (∃ e,
        g.addNodes items type common = Operation.fail (.schema e)) ∨
      ∃ name nodeType,
        g.schema.resolveNode type = .ok name ∧
          g.schema.nodes.get? name = some nodeType ∧
          (∀ item ∈ Batch.merged common items,
            nodeType.checkBag name item.2 = .ok ()) ∧
          g.addNodes items type common =
            Operation.always (.attempt
              (.upsertNodes name (Batch.merged common items))) := by
  rcases g.withNodeType_cases type
      (fun name => Exact.addNodes g name items common) with
    ⟨e, hRefused⟩ | ⟨name, hResolve, hNext⟩
  · exact Or.inl ⟨e, hRefused⟩
  · unfold addNodes
    rw [hNext]
    unfold Exact.addNodes
    cases hBatch : Batch.nodes g.schema name common items with
    | error e => exact Or.inl ⟨e, rfl⟩
    | ok batch =>
        rcases Checks.bind_eq_ok_iff.mp hBatch with
          ⟨nodeType, hType, hPrepare⟩
        rcases Batch.prepare_eq_ok_iff.mp hPrepare with
          ⟨hMerged, hBags⟩
        rw [hMerged]
        exact Or.inr ⟨name, nodeType, hResolve,
          Schema.node_eq_ok_iff.mp hType, hBags, rfl⟩

/- An edge is refused, or its write is attempted. -/
theorem addEdge_cases
    (g : Graph)
    (ends : Ends)
    (types : RouteRef)
    (bag : Bag) :
    (∃ e, g.addEdge ends types bag = Operation.fail (.schema e)) ∨
      ∃ route,
        g.schema.resolveRoute types = .ok route ∧
          Batch.checkEdge g.schema route.edge bag = .ok () ∧
          g.addEdge ends types bag =
            Operation.always
              (.attempt (.upsertEdge ⟨route, ends⟩ bag)) := by
  rcases g.withRoute_cases types
      (fun route => Exact.addEdge g ⟨route, ends⟩ bag) with
    ⟨e, hRefused⟩ | ⟨route, hResolve, hNext⟩
  · exact Or.inl ⟨e, hRefused⟩
  · unfold addEdge
    rw [hNext]
    unfold Exact.addEdge
    cases hCheck : Batch.checkEdge g.schema route.edge bag with
    | error e => exact Or.inl ⟨e, rfl⟩
    | ok u => exact Or.inr ⟨route, hResolve, hCheck, rfl⟩

/- A batch of edges is refused, or its write is attempted. -/
theorem addEdges_cases
    (g : Graph)
    (items : List (Ends × Bag))
    (types : RouteRef)
    (common : Bag) :
    (∃ e,
        g.addEdges items types common = Operation.fail (.schema e)) ∨
      ∃ route,
        g.schema.resolveRoute types = .ok route ∧
          (∀ item ∈ Batch.merged common items,
            Batch.checkEdge g.schema route.edge item.2 = .ok ()) ∧
          g.addEdges items types common =
            Operation.always (.attempt
              (.upsertEdges route (Batch.merged common items))) := by
  rcases g.withRoute_cases types
      (fun route => Exact.addEdges g route items common) with
    ⟨e, hRefused⟩ | ⟨route, hResolve, hNext⟩
  · exact Or.inl ⟨e, hRefused⟩
  · unfold addEdges
    rw [hNext]
    unfold Exact.addEdges
    cases hBatch : Batch.edges g.schema route.edge common items with
    | error e => exact Or.inl ⟨e, rfl⟩
    | ok batch =>
        rcases Batch.prepare_eq_ok_iff.mp hBatch with
          ⟨hMerged, hBags⟩
        rw [hMerged]
        exact Or.inr ⟨route, hResolve, hBags, rfl⟩

/- A removal is refused, or is the removal of a resolved node. -/
theorem removeNode_cases
    (g : Graph)
    (id : String)
    (type : TypeRef) :
    (∃ e, g.removeNode id type = Operation.fail (.schema e)) ∨
      ∃ name,
        g.schema.resolveNode type = .ok name ∧
          g.removeNode id type =
            Operation.always (Exact.removeNode ⟨name, id⟩) :=
  g.withNodeType_cases type
    (fun name => Operation.always (Exact.removeNode ⟨name, id⟩))

end Graph

end GraphClient
