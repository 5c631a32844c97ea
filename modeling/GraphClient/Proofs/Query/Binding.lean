import GraphClient.Proofs.Graph.References
import GraphClient.Proofs.Query.Requests
/-
  The ids of nodes are bound, and never written into a script.

  Key definitions include:
    * `GraphClient.Query.Binds`
    * `GraphClient.Query.AgreeUpToIds`
    * `GraphClient.Call.AgreeUpToIds`

  Key theorems include:
    * `GraphClient.NeighborRequest.exists_compile_eq_map`
    * `GraphClient.Query.exists_compileNodeEdges_eq_map`
    * `GraphClient.Query.ids_never_written`

  Two requests that differ in the ids of their start nodes have
  the same script, or fail for the same cause.  The ids are the
  values of the one parameter, as they are given, whatever
  characters they have.
-/

------------------------------------------------------------
-- Agreement up to Ids
------------------------------------------------------------

namespace GraphClient

namespace Query

/-
  Parameters that bind the start nodes, to the nodes of a type
  with the given ids in order, and bind nothing else.
-/
def Binds
    (type : String)
    (ids : List String)
    (parameters : Parameters) :
    Prop :=
  ∃ refs : List NodeRef,
    parameters.entries = [("start_nodes", .nodes refs)] ∧
      refs.map NodeRef.id = ids ∧
      ∀ ref ∈ refs, ref.type = type

/-
  Both are queries with one script that bind their own ids, or
  both are missing for the same cause.
-/
def AgreeUpToIds
    (type : String)
    (ids others : List String) :
    Except CompileError Query → Except CompileError Query → Prop
| .ok query, .ok other =>
    query.script = other.script ∧
      Binds type ids query.parameters ∧
      Binds type others other.parameters
| .error e, .error f => e = f
| _, _ => False

/- Start nodes are bound to their ids. -/
theorem binds_startParameters
    (type : String)
    (ids : List String) :
    Binds type ids (startParameters type ids) := by
  refine ⟨ids.map (fun id => ⟨type, id⟩), rfl, ?_, ?_⟩
  · rw [List.map_map]
    exact List.map_id ids
  · intro ref hRef
    rcases List.mem_map.mp hRef with ⟨id, _, rfl⟩
    rfl

/- What is made of one outcome with different ids agrees. -/
theorem agreeUpToIds_map
    (outcome : Except CompileError String)
    (type : String)
    (ids others : List String) :
    AgreeUpToIds type ids others
      (outcome.map (fun script =>
        ⟨script, startParameters type ids⟩))
      (outcome.map (fun script =>
        ⟨script, startParameters type others⟩)) := by
  cases outcome with
  | error e => rfl
  | ok script =>
      exact ⟨rfl, binds_startParameters type ids,
        binds_startParameters type others⟩

end Query

end GraphClient

------------------------------------------------------------
-- Compilers
------------------------------------------------------------

namespace GraphClient

/-
  What comes of a request for neighbors, a script or an error,
  is known before its start nodes are, if there are any.
-/
theorem NeighborRequest.exists_compile_eq_map
    (graphName : String)
    (request : NeighborRequest) :
    ∃ outcome : Except CompileError String,
      ∀ ids : List String, ids ≠ [] →
        compile graphName { request with startNodes := ids } =
          outcome.map (fun script =>
            ⟨script,
              Query.startParameters request.startType ids⟩) := by
  refine ⟨do
    Query.checkGraphName graphName
    Query.checkProjection request.restriction.projection?
    Query.checkLimit request.restriction.limit?
    return (request.script graphName).text, ?_⟩
  intro ids hIds
  have hSome : ids.isEmpty = false :=
    List.isEmpty_eq_false_iff.mpr hIds
  simp only [compile, hSome, Bool.false_eq_true, if_false]
  cases Query.checkGraphName graphName with
  | error e => rfl
  | ok =>
      cases Query.checkProjection request.restriction.projection? with
      | error e => rfl
      | ok =>
          cases Query.checkLimit request.restriction.limit? <;> rfl

namespace Query

/- So is what comes of a sample of the edges of a node. -/
theorem exists_compileNodeEdges_eq_map
    (graphName nodeType : String)
    (edgeTypes : List String)
    (samples : Nat) :
    ∃ outcome : Except CompileError String,
      ∀ id,
        compileNodeEdges graphName nodeType id edgeTypes samples =
          outcome.map (fun script =>
            ⟨script, startParameters nodeType [id]⟩) := by
  refine ⟨do
    checkGraphName graphName
    checkLimit (some samples)
    return (nodeEdgesScript graphName nodeType edgeTypes
      samples).text, ?_⟩
  intro id
  unfold compileNodeEdges
  cases checkGraphName graphName with
  | error e => rfl
  | ok => cases checkLimit (some samples) <;> rfl

/- A sample has a query when it is of some edges. -/
theorem compileNodeEdges_eq_ok_iff
    {graphName nodeType nodeId : String}
    {edgeTypes : List String}
    {samples : Nat}
    {query : Query} :
    compileNodeEdges graphName nodeType nodeId edgeTypes samples =
        .ok query ↔
      Text.isIdentifier graphName = true ∧ samples ≠ 0 ∧
        query =
          ⟨(nodeEdgesScript graphName nodeType edgeTypes
              samples).text,
            startParameters nodeType [nodeId]⟩ := by
  unfold compileNodeEdges
  rw [Checks.next_eq_ok_iff, Checks.next_eq_ok_iff,
    checkGraphName_eq_ok_iff, checkLimit_eq_ok_iff,
    Checks.pure_eq_ok_iff]
  simp

end Query

end GraphClient

------------------------------------------------------------
-- Calls
------------------------------------------------------------

namespace GraphClient

/- Both calls run one script, and bind their own ids. -/
def Call.AgreeUpToIds
    (ids others : List String) :
    Call → Call → Prop
| .runInterpreted script parameters, .runInterpreted other values =>
    script = other ∧
      ∃ type,
        Query.Binds type ids parameters ∧
          Query.Binds type others values
| _, _ => False

namespace Graph

variable {σ τ α : Type}

/- The calls that run a query, if there is one. -/
def queryCalls : Except CompileError Query → List Call
| .ok query => [.runInterpreted query.script query.parameters]
| .error _ => []

/- Queries that agree are run by calls that agree. -/
theorem agreeUpToIds_queryCalls
    {type : String}
    {ids others : List String}
    {x y : Except CompileError Query}
    (hAgree : Query.AgreeUpToIds type ids others x y) :
    List.Forall₂ (Call.AgreeUpToIds ids others)
      (queryCalls x) (queryCalls y) := by
  cases x with
  | error e =>
      cases y with
      | error f => exact .nil
      | ok other => exact hAgree.elim
  | ok query =>
      cases y with
      | error f => exact hAgree.elim
      | ok other =>
          rcases hAgree with ⟨hScript, hBinds, hOthers⟩
          exact .cons ⟨hScript, type, hBinds, hOthers⟩ .nil

/- What is tabulated is the one query that is run. -/
theorem sends_tabulate
    (query : Except CompileError Query)
    (table : Response → Table) :
    (tabulate query table).Ensures (fun _ xs =>
      xs.map Exchange.call = queryCalls query) := by
  cases query with
  | error e => exact rfl
  | ok query =>
      intro (o : Except RemoteError Response)
      cases o <;> exact rfl

/- What samples edges is the one query that is run. -/
theorem sends_nodeEdges
    (g : Graph)
    (node : NodeRef)
    (edgeTypes : List String) :
    (Exact.nodeEdges g node edgeTypes).Ensures (fun _ xs =>
      xs.map Exchange.call =
        queryCalls (compileNodeEdges g.name node.type node.id
          edgeTypes g.options.edgeSamples)) := by
  unfold Exact.nodeEdges
  cases compileNodeEdges g.name node.type node.id edgeTypes
      g.options.edgeSamples with
  | error e => exact rfl
  | ok query =>
      intro (o : Except RemoteError Response)
      cases o <;> exact rfl

/- A conversation that is ensured some calls makes them. -/
theorem calls_of_ensures
    {c : Conversation α}
    {calls : List Call}
    (hSends : c.Ensures (fun _ xs => xs.map Exchange.call = calls))
    (service : Service σ)
    (s : σ) :
    c.calls service s = calls := by
  rw [Conversation.calls_eq_map_exchanges]
  exact hSends.run service s

/- Neighbors of other nodes are found by a query that agrees. -/
theorem agreeUpToIds_neighbors
    (g : Graph)
    {ids others : List String}
    (hIds : ids ≠ [])
    (hOthers : others ≠ [])
    (type : TypeRef)
    (service : Service σ)
    (s : σ)
    (service' : Service τ)
    (s' : τ) :
    List.Forall₂ (Call.AgreeUpToIds ids others)
      ((g.neighbors ids type).calls service s)
      ((g.neighbors others type).calls service' s') := by
  have hBuild (starts : List String) (hStarts : starts ≠ []) :
      g.neighbors starts type =
        Operation.require .schema (g.schema.resolveNode type)
          (fun name =>
            g.findNeighbors ⟨starts, name, .any, .none⟩) := by
    unfold neighbors
    rw [NeighborRequest.Form.buildWith_blank]
    cases g.schema.resolveNode type with
    | error e => rfl
    | ok name => simp [hStarts, Operation.require]
  rw [hBuild ids hIds, hBuild others hOthers]
  cases g.schema.resolveNode type with
  | error e => exact .nil
  | ok name =>
      rw [Operation.require_of_ok rfl, Operation.require_of_ok rfl]
      unfold findNeighbors
      rw [calls_of_ensures (sends_tabulate _ _),
        calls_of_ensures (sends_tabulate _ _)]
      rcases NeighborRequest.exists_compile_eq_map g.name
          ⟨ids, name, .any, .none⟩ with
        ⟨outcome, hOutcome⟩
      rw [hOutcome ids hIds, hOutcome others hOthers]
      exact agreeUpToIds_queryCalls
        (Query.agreeUpToIds_map outcome name ids others)

/- Edges of another node are sampled by a query that agrees. -/
theorem agreeUpToIds_nodeEdges
    (g : Graph)
    (id other : String)
    (type : TypeRef)
    (edgeTypes : List String)
    (service : Service σ)
    (s : σ)
    (service' : Service τ)
    (s' : τ) :
    List.Forall₂ (Call.AgreeUpToIds [id] [other])
      ((g.nodeEdges id type edgeTypes).calls service s)
      ((g.nodeEdges other type edgeTypes).calls service' s') := by
  unfold nodeEdges withNodeType
  cases g.schema.resolveNode type with
  | error e => exact .nil
  | ok name =>
      rw [Operation.require_of_ok rfl, Operation.require_of_ok rfl,
        calls_of_ensures (sends_nodeEdges g ⟨name, id⟩ edgeTypes),
        calls_of_ensures (sends_nodeEdges g ⟨name, other⟩ edgeTypes)]
      rcases Query.exists_compileNodeEdges_eq_map g.name name
          edgeTypes g.options.edgeSamples with
        ⟨outcome, hOutcome⟩
      rw [hOutcome id, hOutcome other]
      exact agreeUpToIds_queryCalls
        (Query.agreeUpToIds_map outcome name [id] [other])

end Graph

end GraphClient

------------------------------------------------------------
-- Main Result
------------------------------------------------------------

namespace GraphClient

namespace Query

variable {σ τ : Type}

/-
  No id of a node reaches a script.  Requests for neighbors that
  differ in their start nodes have the same script, which binds
  the start nodes as they are given; samples of the edges of two
  nodes have the same script as well.  Whether there is a script
  depends on the name of the graph and on the other parts of the
  request.  The same holds of the queries that a graph runs for
  them, whichever service answers.
-/
theorem ids_never_written :
    (∀ (graphName : String) (request : NeighborRequest)
        (others : List String),
      request.startNodes ≠ [] → others ≠ [] →
        AgreeUpToIds request.startType request.startNodes others
            (request.compile graphName)
            (NeighborRequest.compile graphName
              { request with startNodes := others }) ∧
          ((∃ query, request.compile graphName = .ok query) ↔
            Text.isIdentifier graphName = true ∧
              request.restriction.projection? ≠ some [] ∧
              request.restriction.limit? ≠ some 0)) ∧
      (∀ (graphName nodeType id other : String)
          (edgeTypes : List String) (samples : Nat),
        AgreeUpToIds nodeType [id] [other]
            (compileNodeEdges graphName nodeType id edgeTypes samples)
            (compileNodeEdges graphName nodeType other edgeTypes
              samples) ∧
          ((∃ query,
              compileNodeEdges graphName nodeType id edgeTypes
                  samples =
                .ok query) ↔
            Text.isIdentifier graphName = true ∧ samples ≠ 0)) ∧
      ∀ (g : Graph) (type : TypeRef) (service : Service σ) (s : σ)
          (service' : Service τ) (s' : τ),
        (∀ ids others : List String, ids ≠ [] → others ≠ [] →
          List.Forall₂ (Call.AgreeUpToIds ids others)
            ((g.neighbors ids type).calls service s)
            ((g.neighbors others type).calls service' s')) ∧
          ∀ (id other : String) (edgeTypes : List String),
            List.Forall₂ (Call.AgreeUpToIds [id] [other])
              ((g.nodeEdges id type edgeTypes).calls service s)
              ((g.nodeEdges other type edgeTypes).calls
                service' s') := by
  refine ⟨?_, ?_, ?_⟩
  · intro graphName request others hStarts hOthers
    rcases NeighborRequest.exists_compile_eq_map graphName request
      with ⟨outcome, hOutcome⟩
    constructor
    · rw [hOutcome others hOthers,
        show request.compile graphName = _ from
          hOutcome request.startNodes hStarts]
      exact agreeUpToIds_map outcome _ _ _
    · simp only [NeighborRequest.compile_eq_ok_iff, hStarts,
        ne_eq, not_false_iff, true_and]
      simp
  · intro graphName nodeType id other edgeTypes samples
    rcases exists_compileNodeEdges_eq_map graphName nodeType
        edgeTypes samples with
      ⟨outcome, hOutcome⟩
    constructor
    · rw [hOutcome id, hOutcome other]
      exact agreeUpToIds_map outcome _ _ _
    · simp [compileNodeEdges_eq_ok_iff]
  · intro g type service s service' s'
    exact ⟨fun ids others hIds hOthers =>
        Graph.agreeUpToIds_neighbors g hIds hOthers type service s
          service' s',
      fun id other edgeTypes =>
        Graph.agreeUpToIds_nodeEdges g id other type edgeTypes
          service s service' s'⟩

/- Ids that would end a string, a statement and a script. -/
def hostileIds : List String :=
  ["ann", "ann", "\"; PRINT x;\n\x7d", ""]

/- Hostile ids are bound in the place of those of friends. -/
theorem ids_never_written_friends :
    (∃ script parameters values,
      friends.compile "Social" = .ok ⟨script, parameters⟩ ∧
        NeighborRequest.compile "Social"
            { friends with startNodes := hostileIds } =
          .ok ⟨script, values⟩ ∧
        Binds "Person" hostileIds values) ∧
      List.Forall₂ (Call.AgreeUpToIds ["ann"] hostileIds)
        ((Graph.acquaintance.neighbors ["ann"] none).calls
          Store.service .empty)
        ((Graph.acquaintance.neighbors hostileIds none).calls
          Store.service .empty) := by
  rcases ids_never_written (σ := Store) (τ := Store) with
    ⟨hCompile, _, hCalls⟩
  have hIds : hostileIds ≠ [] := by decide
  constructor
  · rcases hCompile "Social" friends hostileIds (by decide) hIds with
      ⟨hAgree, hSome⟩
    rcases hSome.mpr ⟨by decide, by decide, by decide⟩ with
      ⟨⟨script, parameters⟩, hQuery⟩
    rw [hQuery] at hAgree
    cases hOther : NeighborRequest.compile "Social"
        { friends with startNodes := hostileIds } with
    | error e =>
        rw [hOther] at hAgree
        exact hAgree.elim
    | ok other =>
        rw [hOther] at hAgree
        rcases hAgree with ⟨rfl, _, hBinds⟩
        exact ⟨_, parameters, other.parameters, hQuery, rfl, hBinds⟩
  · exact (hCalls Graph.acquaintance none Store.service .empty
      Store.service .empty).1 ["ann"] hostileIds (by decide) hIds

end Query

end GraphClient
