import GraphClient.Proofs.Graph.Action
import GraphClient.Proofs.Remote.Exchanges
/-
  Which actions pass validation.

  Key definitions include:
    * `GraphClient.GraphError.isRefusal`
    * `GraphClient.Schema.AcceptsNode`
    * `GraphClient.Schema.AcceptsEdge`
    * `GraphClient.Action.Valid`
    * `GraphClient.Action.Refused`

  Key theorems include:
    * `GraphClient.Action.refused_of_not_valid`

  Whether an action is valid depends on the schema, the options
  and the arguments alone.  An action that is not valid ends at
  once, before its first call.
-/

------------------------------------------------------------
-- Refusals
------------------------------------------------------------

namespace GraphClient

/- Whether an error says that the arguments are refused. -/
def GraphError.isRefusal : GraphError → Bool
| .schema _ => true
| .request _ => true
| .compile _ => true
| _ => false

/- A refused request is a refusal. -/
theorem GraphError.isRefusal_ofRequest
    (e : RequestError) :
    (ofRequest e).isRefusal = true := by
  cases e <;> rfl

namespace Operation

variable {α β ε : Type}

/- The error that an operation has ended with. -/
def errorOf? : Except GraphError α → Option GraphError
| .ok _ => none
| .error e => some e

/- An operation that ends with a refusal before it asks. -/
def Refuses
    (c : Operation α) :
    Prop :=
  ∃ e, e.isRefusal = true ∧ c = fail e

/- A check refuses, or what follows it does. -/
theorem refuses_require
    {cause : ε → GraphError}
    {check : Except ε β}
    {next : β → Operation α}
    (hCause : ∀ e, (cause e).isRefusal = true)
    (hNext : ∀ b, check = .ok b → (next b).Refuses) :
    (require cause check next).Refuses := by
  cases check with
  | ok b => exact hNext b rfl
  | error e => exact ⟨cause e, hCause e, rfl⟩

/- An operation that refuses has no exchanges. -/
theorem Refuses.ensures
    {c : Operation α}
    (hRefuses : c.Refuses) :
    c.Ensures (fun r xs =>
      (∃ e, errorOf? r = some e ∧ e.isRefusal = true) ∧ xs = []) := by
  rcases hRefuses with ⟨e, hRefusal, rfl⟩
  exact ⟨⟨e, rfl, hRefusal⟩, rfl⟩

end Operation

namespace Action

/- The error that an action has ended with. -/
def error? : (action : Action) → action.Result → Option GraphError
| .addNode _ _ _, r => Operation.errorOf? r
| .addNodes _ _ _, r => Operation.errorOf? r
| .removeNode _ _, r => Operation.errorOf? r
| .hasNode _ _, r => Operation.errorOf? r
| .nodeData _ _, r => Operation.errorOf? r
| .nodeEdges _ _ _, r => Operation.errorOf? r
| .clear, _ => none
| .addEdge _ _ _, r => Operation.errorOf? r
| .addEdges _ _ _, r => Operation.errorOf? r
| .hasEdge _ _, r => Operation.errorOf? r
| .edgeData _ _, r => Operation.errorOf? r
| .degree _ _ _, r => Operation.errorOf? r
| .nodeCount _, r => Operation.errorOf? r
| .edgeCount _, r => Operation.errorOf? r
| .runQuery _ _, _ => none
| .nodes _, r => Operation.errorOf? r
| .neighbors _ _, r => Operation.errorOf? r
| .edges _, r => Operation.errorOf? r
| .findNodes _, r => Operation.errorOf? r
| .findNeighbors _, r => Operation.errorOf? r
| .findEdges _, r => Operation.errorOf? r
| .createSchema _, r => Operation.errorOf? r
| .drop, r => Operation.errorOf? r
| .installQueries, r => Operation.errorOf? r

/- Whether an action has ended with a refusal. -/
def Refused
    (action : Action)
    (r : action.Result) :
    Prop :=
  ∃ e, action.error? r = some e ∧ e.isRefusal = true

end Action

end GraphClient

------------------------------------------------------------
-- Validity
------------------------------------------------------------

namespace GraphClient

namespace Schema

/- A reference that resolves to a node type. -/
def ResolvesNode
    (schema : Schema)
    (type : TypeRef) :
    Prop :=
  ∃ name, schema.resolveNode type = .ok name

/- References that resolve to the types of an edge. -/
def ResolvesRoute
    (schema : Schema)
    (types : RouteRef) :
    Prop :=
  ∃ route, schema.resolveRoute types = .ok route

/- A reference that resolves to a node type for some values. -/
def AcceptsNode
    (schema : Schema)
    (type : TypeRef)
    (bag : Bag) :
    Prop :=
  ∃ name nodeType,
    schema.resolveNode type = .ok name ∧
      schema.nodes.get? name = some nodeType ∧
      nodeType.checkBag name bag = .ok ()

/- References that resolve to an edge type for some values. -/
def AcceptsEdge
    (schema : Schema)
    (types : RouteRef)
    (bag : Bag) :
    Prop :=
  ∃ route edgeType,
    schema.resolveRoute types = .ok route ∧
      schema.edges.get? route.edge = some edgeType ∧
      edgeType.checkBag route.edge bag = .ok ()

end Schema

/- The types that a count goes through: the named one, or all. -/
def TypeRef.counted
    (defined : List String)
    (type : TypeRef) :
    List String :=
  match type.name? with
  | some name => [name]
  | none => defined

namespace Action

/-
  Whether the arguments of an action pass validation: types
  resolve, values fit, requests can be built and have queries.
  A batch passes when every item does, with the common values
  over its own.
-/
def Valid
    (g : Graph) :
    Action → Prop
| .addNode _ type bag => g.schema.AcceptsNode type bag
| .addNodes items type common =>
    g.schema.ResolvesNode type ∧
      ∀ item ∈ items,
        g.schema.AcceptsNode type (item.2.override common)
| .removeNode _ type => g.schema.ResolvesNode type
| .hasNode _ type => g.schema.ResolvesNode type
| .nodeData _ type => g.schema.ResolvesNode type
| .nodeEdges id type edgeTypes =>
    ∃ name query,
      g.schema.resolveNode type = .ok name ∧
        compileNodeEdges g.name name id edgeTypes
          g.options.edgeSamples = .ok query
| .clear => True
| .addEdge _ types bag => g.schema.AcceptsEdge types bag
| .addEdges items types common =>
    g.schema.ResolvesRoute types ∧
      ∀ item ∈ items,
        g.schema.AcceptsEdge types (item.2.override common)
| .hasEdge _ types => g.schema.ResolvesRoute types
| .edgeData _ types => g.schema.ResolvesRoute types
| .degree _ type _ => g.schema.ResolvesNode type
| .nodeCount type =>
    ∀ name ∈ type.name?, name ∈ g.schema.nodes.keys
| .edgeCount type =>
    ∀ name ∈ type.name?, name ∈ g.schema.edges.keys
| .runQuery _ _ => True
| .nodes type =>
    ∃ request query,
      NodeRequest.Form.buildWith g.schema
          { NodeRequest.Form.blank with type? := type } =
        .ok request ∧
      request.compile g.name = .ok query
| .neighbors startNodes type =>
    ∃ request query,
      NeighborRequest.Form.buildWith g.schema
          { NeighborRequest.Form.blank startNodes with
            startType? := type } =
        .ok request ∧
      request.compile g.name = .ok query
| .edges type =>
    ∃ request query,
      EdgeRequest.Form.buildWith g.schema
          { EdgeRequest.Form.blank with
            pattern :=
              { Pattern.any with
                edgeTypes := (TypeRef.name? type).toList } } =
        .ok request ∧
      request.compile g.name = .ok query
| .findNodes request =>
    ∃ query, request.compile g.name = .ok query
| .findNeighbors request =>
    ∃ query, request.compile g.name = .ok query
| .findEdges request =>
    ∃ query, request.compile g.name = .ok query
| .createSchema _ => True
| .drop => True
| .installQueries => True

end Action

end GraphClient

------------------------------------------------------------
-- Checks That Are Passed
------------------------------------------------------------

namespace GraphClient

namespace Schema

variable {schema : Schema}

/- A resolved reference has a node type. -/
theorem exists_node_of_resolve
    {type : TypeRef}
    {name : String}
    (hResolve : schema.resolveNode type = .ok name) :
    ∃ nodeType, schema.nodes.get? name = some nodeType := by
  have hMem : name ∈ schema.nodes.keys := mem_of_resolve hResolve
  have hContains := (schema.nodes.contains_iff name).mpr hMem
  exact Option.isSome_iff_exists.mp hContains

/- A node type that accepts a bag passes its check. -/
theorem AcceptsNode.check
    {type : TypeRef}
    {bag : Bag}
    {name : String}
    (hAccepts : schema.AcceptsNode type bag)
    (hResolve : schema.resolveNode type = .ok name) :
    (do (← schema.node name).checkBag name bag :
      Except SchemaError Unit) = .ok () := by
  rcases hAccepts with ⟨other, nodeType, hOther, hType, hBag⟩
  rw [hResolve] at hOther
  cases hOther
  exact Checks.bind_eq_ok_iff.mpr
    ⟨nodeType, node_eq_ok_iff.mpr hType, hBag⟩

/- A batch of nodes passes when all of its items are accepted. -/
theorem batch_nodes_of_accepts
    {type : TypeRef}
    {name : String}
    {common : Bag}
    {items : List (String × Bag)}
    (hResolve : schema.resolveNode type = .ok name)
    (hItems :
      ∀ item ∈ items,
        schema.AcceptsNode type (item.2.override common)) :
    Batch.nodes schema name common items =
      .ok (Batch.merged common items) := by
  rcases exists_node_of_resolve hResolve with ⟨nodeType, hType⟩
  have hNode := node_eq_ok_iff.mpr hType
  apply Checks.bind_eq_ok_iff.mpr
  refine ⟨nodeType, hNode, Batch.prepare_eq_ok_iff.mpr ⟨rfl, ?_⟩⟩
  intro merged hMem
  rcases List.mem_map.mp hMem with ⟨item, hItem, rfl⟩
  rcases Checks.bind_eq_ok_iff.mp
      ((hItems item hItem).check hResolve) with
    ⟨found, hFound, hBag⟩
  rw [hNode] at hFound
  cases hFound
  exact hBag

/- An edge type that accepts a bag passes its check. -/
theorem AcceptsEdge.check
    {types : RouteRef}
    {bag : Bag}
    {route : Route}
    (hAccepts : schema.AcceptsEdge types bag)
    (hResolve : schema.resolveRoute types = .ok route) :
    Batch.checkEdge schema route.edge bag = .ok () := by
  rcases hAccepts with ⟨other, edgeType, hOther, hType, hBag⟩
  rw [hResolve] at hOther
  cases hOther
  exact Checks.bind_eq_ok_iff.mpr
    ⟨edgeType, edge_eq_ok_iff.mpr hType, hBag⟩

/- A batch of edges passes when all of its items are accepted. -/
theorem batch_edges_of_accepts
    {types : RouteRef}
    {route : Route}
    {common : Bag}
    {items : List (Ends × Bag)}
    (hResolve : schema.resolveRoute types = .ok route)
    (hItems :
      ∀ item ∈ items,
        schema.AcceptsEdge types (item.2.override common)) :
    Batch.edges schema route.edge common items =
      .ok (Batch.merged common items) := by
  refine Batch.prepare_eq_ok_iff.mpr ⟨rfl, ?_⟩
  intro merged hMem
  rcases List.mem_map.mp hMem with ⟨item, hItem, rfl⟩
  exact (hItems item hItem).check hResolve

end Schema

/- The types to count are there when the named one is defined. -/
theorem Graph.countedTypes_eq_ok_iff
    {element : Element}
    {defined types : List String}
    {type : TypeRef} :
    countedTypes element defined type = .ok types ↔
      types = type.counted defined ∧
        ∀ name ∈ type.name?, name ∈ defined := by
  unfold countedTypes TypeRef.counted Schema.resolve
  cases hName : type.name? with
  | none => simp [eq_comm]
  | some name =>
      by_cases hMem : name ∈ defined
      · simp [hMem, eq_comm]
      · simp [hMem]

end GraphClient

------------------------------------------------------------
-- Actions That Are Not Valid
------------------------------------------------------------

namespace GraphClient

namespace Graph

variable {α : Type}

/- A node type that does not resolve is refused. -/
theorem refuses_withNodeType
    {g : Graph}
    {type : TypeRef}
    {next : String → Operation α}
    (hNext :
      ∀ name, g.schema.resolveNode type = .ok name →
        (next name).Refuses) :
    (g.withNodeType type next).Refuses :=
  Operation.refuses_require (fun _ => rfl) hNext

/- Types of an edge that do not resolve are refused. -/
theorem refuses_withRoute
    {g : Graph}
    {types : RouteRef}
    {next : Route → Operation α}
    (hNext :
      ∀ route, g.schema.resolveRoute types = .ok route →
        (next route).Refuses) :
    (g.withRoute types next).Refuses :=
  Operation.refuses_require (fun _ => rfl) hNext

/- A request without a query is refused. -/
theorem refuses_tabulate
    {query : Except CompileError Query}
    {table : Response → Table}
    (hNone : ¬ ∃ found, query = .ok found) :
    (tabulate query table).Refuses :=
  Operation.refuses_require (fun _ => rfl)
    (fun found hFound => (hNone ⟨found, hFound⟩).elim)

/- A request that is not built, or has no query, is refused. -/
theorem refuses_request
    {ρ : Type}
    {built : Except RequestError ρ}
    {compile : ρ → Except CompileError Query}
    {table : ρ → Response → Table}
    (hNone :
      ¬ ∃ request query,
        built = .ok request ∧ compile request = .ok query) :
    (Operation.require .ofRequest built
      (fun request =>
        tabulate (compile request) (table request))).Refuses := by
  apply Operation.refuses_require GraphError.isRefusal_ofRequest
  intro request hRequest
  apply refuses_tabulate
  rintro ⟨query, hQuery⟩
  exact hNone ⟨request, query, hRequest, hQuery⟩

end Graph

namespace Action

/- An action that is not valid is refused before its first call. -/
theorem refused_of_not_valid
    {g : Graph}
    {action : Action}
    (hInvalid : ¬ action.Valid g) :
    (action.conversation g).Ensures (fun r xs =>
      action.Refused r ∧ xs = []) := by
  cases action with
  | clear => exact (hInvalid trivial).elim
  | runQuery name parameters => exact (hInvalid trivial).elim
  | createSchema dropsExisting => exact (hInvalid trivial).elim
  | drop => exact (hInvalid trivial).elim
  | installQueries => exact (hInvalid trivial).elim
  | addNode id type bag =>
      rcases g.addNode_cases id type bag with
        ⟨e, hRefused⟩ | ⟨name, nodeType, hResolve, hType, hBag, _⟩
      · exact Operation.Refuses.ensures ⟨.schema e, rfl, hRefused⟩
      · exact (hInvalid
          ⟨name, nodeType, hResolve, hType, hBag⟩).elim
  | addNodes items type common =>
      rcases g.addNodes_cases items type common with
        ⟨e, hRefused⟩ | ⟨name, nodeType, hResolve, hType, hBags, _⟩
      · exact Operation.Refuses.ensures ⟨.schema e, rfl, hRefused⟩
      · refine (hInvalid ⟨⟨name, hResolve⟩, ?_⟩).elim
        intro item hItem
        exact ⟨name, nodeType, hResolve, hType,
          hBags _ (List.mem_map_of_mem hItem)⟩
  | removeNode id type =>
      apply Operation.Refuses.ensures
      exact Graph.refuses_withNodeType
        (fun name hName => (hInvalid ⟨name, hName⟩).elim)
  | hasNode id type =>
      apply Operation.Refuses.ensures
      exact Graph.refuses_withNodeType
        (fun name hName => (hInvalid ⟨name, hName⟩).elim)
  | nodeData id type =>
      apply Operation.Refuses.ensures
      exact Graph.refuses_withNodeType
        (fun name hName => (hInvalid ⟨name, hName⟩).elim)
  | degree id type edgeTypes =>
      apply Operation.Refuses.ensures
      exact Graph.refuses_withNodeType
        (fun name hName => (hInvalid ⟨name, hName⟩).elim)
  | nodeEdges id type edgeTypes =>
      apply Operation.Refuses.ensures
      apply Graph.refuses_withNodeType
      intro name hName
      exact Operation.refuses_require (fun _ => rfl)
        (fun query hQuery =>
          (hInvalid ⟨name, query, hName, hQuery⟩).elim)
  | addEdge ends types bag =>
      rcases g.addEdge_cases ends types bag with
        ⟨e, hRefused⟩ | ⟨route, hResolve, hCheck, _⟩
      · exact Operation.Refuses.ensures ⟨.schema e, rfl, hRefused⟩
      · rcases Checks.bind_eq_ok_iff.mp hCheck with
          ⟨edgeType, hType, hBag⟩
        exact (hInvalid ⟨route, edgeType, hResolve,
          Schema.edge_eq_ok_iff.mp hType, hBag⟩).elim
  | addEdges items types common =>
      rcases g.addEdges_cases items types common with
        ⟨e, hRefused⟩ | ⟨route, hResolve, hBags, _⟩
      · exact Operation.Refuses.ensures ⟨.schema e, rfl, hRefused⟩
      · refine (hInvalid ⟨⟨route, hResolve⟩, ?_⟩).elim
        intro item hItem
        rcases Checks.bind_eq_ok_iff.mp
            (hBags _ (List.mem_map_of_mem hItem)) with
          ⟨edgeType, hType, hBag⟩
        exact ⟨route, edgeType, hResolve,
          Schema.edge_eq_ok_iff.mp hType, hBag⟩
  | hasEdge ends types =>
      apply Operation.Refuses.ensures
      exact Graph.refuses_withRoute
        (fun route hRoute => (hInvalid ⟨route, hRoute⟩).elim)
  | edgeData ends types =>
      apply Operation.Refuses.ensures
      exact Graph.refuses_withRoute
        (fun route hRoute => (hInvalid ⟨route, hRoute⟩).elim)
  | nodeCount type =>
      apply Operation.Refuses.ensures
      apply Operation.refuses_require (fun _ => rfl)
      intro types hTypes
      exact (hInvalid (Graph.countedTypes_eq_ok_iff.mp hTypes).2).elim
  | edgeCount type =>
      apply Operation.Refuses.ensures
      apply Operation.refuses_require (fun _ => rfl)
      intro types hTypes
      exact (hInvalid (Graph.countedTypes_eq_ok_iff.mp hTypes).2).elim
  | nodes type =>
      exact Operation.Refuses.ensures (Graph.refuses_request hInvalid)
  | neighbors startNodes type =>
      exact Operation.Refuses.ensures (Graph.refuses_request hInvalid)
  | edges type =>
      exact Operation.Refuses.ensures (Graph.refuses_request hInvalid)
  | findNodes request =>
      exact Operation.Refuses.ensures (Graph.refuses_tabulate hInvalid)
  | findNeighbors request =>
      exact Operation.Refuses.ensures (Graph.refuses_tabulate hInvalid)
  | findEdges request =>
      exact Operation.Refuses.ensures (Graph.refuses_tabulate hInvalid)

end Action

end GraphClient
