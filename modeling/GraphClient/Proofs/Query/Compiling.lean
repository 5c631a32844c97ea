import GraphClient.Proofs.Config
import GraphClient.Proofs.Graph.Outcomes
import GraphClient.Proofs.Query.Requests
import GraphClient.Proofs.Text.Identifiers
/-
  Which requests have a query.

  Key definitions include:
    * `GraphClient.Query.NeedsOnlyName`
    * `GraphClient.Response.ofOutcome`

  Key theorems include:
    * `GraphClient.NodeRequest.Built.needsOnlyName`
    * `GraphClient.NeighborRequest.Built.needsOnlyName`
    * `GraphClient.EdgeRequest.Built.needsOnlyName`
    * `GraphClient.Graph.Exact.ensures_nodeEdges`
    * `GraphClient.Query.compiles_of_built`

  The compiler checks again what was checked when a request was
  built or a configuration was loaded.  Only the name of the
  graph has not been checked before, so nothing else can be
  wrong.
-/

------------------------------------------------------------
-- Names That Are Needed
------------------------------------------------------------

namespace GraphClient

namespace Query

/-
  A compiler that gives a query for each name of a graph that
  is an identifier, and for every other name says just that.
-/
def NeedsOnlyName
    (compile : String → Except CompileError Query) :
    Prop :=
  ∀ graphName,
    ((∃ query, compile graphName = .ok query) ↔
        graphName.toList ∈ Text.identifierPattern.matches') ∧
      (graphName.toList ∉ Text.identifierPattern.matches' →
        compile graphName = .error (.invalidGraphName graphName))

/- What checks the name, and then cannot fail, needs no more. -/
theorem needsOnlyName_of_rest
    {rest : String → Except CompileError Query}
    (hRest : ∀ graphName, ∃ query, rest graphName = .ok query) :
    NeedsOnlyName (fun graphName => do
      checkGraphName graphName
      rest graphName) := by
  intro graphName
  rw [← Text.isIdentifier_iff_matches]
  constructor
  · constructor
    · rintro ⟨query, hQuery⟩
      exact checkGraphName_eq_ok_iff.mp
        (Checks.next_eq_ok_iff.mp hQuery).1
    · intro hName
      rcases hRest graphName with ⟨query, hQuery⟩
      exact ⟨query, Checks.next_eq_ok_iff.mpr
        ⟨checkGraphName_eq_ok_iff.mpr hName, hQuery⟩⟩
  · intro hName
    have hCheck :
        checkGraphName graphName =
          .error (.invalidGraphName graphName) :=
      if_neg hName
    change (checkGraphName graphName >>= fun _ => rest graphName) = _
    rw [hCheck]
    rfl

/- The one error is that the name is no identifier. -/
theorem NeedsOnlyName.eq_error_iff
    {compile : String → Except CompileError Query}
    (hNeeds : NeedsOnlyName compile)
    {graphName : String}
    {e : CompileError} :
    compile graphName = .error e ↔
      graphName.toList ∉ Text.identifierPattern.matches' ∧
        e = .invalidGraphName graphName := by
  rcases hNeeds graphName with ⟨hFound, hRefused⟩
  constructor
  · intro hError
    have hName :
        graphName.toList ∉ Text.identifierPattern.matches' := by
      intro hMatches
      rcases hFound.mpr hMatches with ⟨query, hQuery⟩
      rw [hError] at hQuery
      cases hQuery
    rw [hRefused hName, Except.error.injEq] at hError
    exact ⟨hName, hError.symm⟩
  · rintro ⟨hName, rfl⟩
    exact hRefused hName

/- A sound restriction passes the checks of the compiler. -/
theorem exists_of_sound
    {restriction : Restriction}
    (hSound : restriction.Sound)
    (query : Query) :
    ∃ found : Query,
      (do
        checkProjection restriction.projection?
        checkLimit restriction.limit?
        return query : Except CompileError Query) = .ok found := by
  refine ⟨query, Checks.next_eq_ok_iff.mpr ⟨?_, ?_⟩⟩
  · exact checkProjection_eq_ok_iff.mpr hSound.projection
  · exact Checks.next_eq_ok_iff.mpr
      ⟨checkLimit_eq_ok_iff.mpr hSound.limit, rfl⟩

end Query

/- A built request for nodes has a query. -/
theorem NodeRequest.Built.needsOnlyName
    {request : NodeRequest}
    (hBuilt : request.Built) :
    Query.NeedsOnlyName (fun name => request.compile name) :=
  Query.needsOnlyName_of_rest
    (fun _ => Query.exists_of_sound hBuilt.sound _)

/- A built request for neighbors has a query. -/
theorem NeighborRequest.Built.needsOnlyName
    {request : NeighborRequest}
    (hBuilt : request.Built) :
    Query.NeedsOnlyName (fun name => request.compile name) := by
  apply Query.needsOnlyName_of_rest
  intro name
  have hStart : request.startNodes.isEmpty = false :=
    List.isEmpty_eq_false_iff.mpr hBuilt.startNodes_ne
  simp only [hStart, Bool.false_eq_true, if_false]
  exact Query.exists_of_sound hBuilt.sound _

/- A built request for edges has a query. -/
theorem EdgeRequest.Built.needsOnlyName
    {request : EdgeRequest}
    (hBuilt : request.Built) :
    Query.NeedsOnlyName (fun name => request.compile name) :=
  Query.needsOnlyName_of_rest
    (fun _ => Query.exists_of_sound hBuilt.sound _)

/- A sample of at least one edge of a node has a query. -/
theorem needsOnlyName_compileNodeEdges
    {samples : Nat}
    (hSamples : samples ≠ 0)
    (nodeType nodeId : String)
    (edgeTypes : List String) :
    Query.NeedsOnlyName (fun name =>
      compileNodeEdges name nodeType nodeId edgeTypes samples) := by
  apply Query.needsOnlyName_of_rest
  intro name
  refine ⟨_, Checks.next_eq_ok_iff.mpr ⟨?_, rfl⟩⟩
  apply Query.checkLimit_eq_ok_iff.mpr
  simpa using hSamples

end GraphClient

------------------------------------------------------------
-- Edges of Nodes
------------------------------------------------------------

namespace GraphClient

/- The response of an outcome; a failure has none to speak of. -/
def Response.ofOutcome
    (o : Except RemoteError Response) :
    Response :=
  o.toOption.getD []

namespace Graph

/- A sample that has a query is the edges of its response. -/
theorem Exact.ensures_nodeEdges
    {g : Graph}
    (node : NodeRef)
    {edgeTypes : List String}
    {query : Query}
    (hQuery :
      compileNodeEdges g.name node.type node.id edgeTypes
          g.options.edgeSamples =
        .ok query) :
    (Exact.nodeEdges g node edgeTypes).Ensures (fun r xs =>
      Asked (.runInterpreted query.script query.parameters)
        (fun o =>
          r = .ok ((Response.ofOutcome o).edgeKeys g.schema)) xs) := by
  apply Operation.ensures_require_of_ok hQuery
  intro (o : Except RemoteError Response)
  cases o with
  | ok response => exact ⟨.ok response, rfl, rfl⟩
  | error e => exact ⟨.error e, rfl, rfl⟩

/-
  A sample fails for its query exactly when the type of the node
  resolves and the query is refused.
-/
theorem nodeEdges_compile_iff
    {σ : Type}
    {g : Graph}
    {id : String}
    {type : TypeRef}
    {edgeTypes : List String}
    {service : Service σ}
    {s : σ}
    {e : CompileError} :
    ((g.nodeEdges id type edgeTypes).run service s).1 =
        .error (.compile e) ↔
      ∃ name,
        g.schema.resolveNode type = .ok name ∧
          compileNodeEdges g.name name id edgeTypes
              g.options.edgeSamples =
            .error e := by
  unfold nodeEdges withNodeType
  cases hType : g.schema.resolveNode type with
  | error cause =>
      simp [Operation.require, Operation.fail, Conversation.run]
  | ok name =>
      rw [Operation.require_of_ok rfl]
      cases hQuery : compileNodeEdges g.name name id edgeTypes
          g.options.edgeSamples with
      | error cause =>
          simp [Exact.nodeEdges, hQuery, Operation.require,
            Operation.fail, Conversation.run]
      | ok query =>
          -- whatever comes of the call, the sample has a result
          rcases (Exact.ensures_nodeEdges ⟨name, id⟩ hQuery).run
              service s with
            ⟨o, _, hResult⟩
          simp [hResult, hQuery]

end Graph

/- Options that pass their check sample at least one edge. -/
theorem Options.edgeSamples_ne_of_check
    {options : Options}
    (hCheck : options.check = .ok ()) :
    options.edgeSamples ≠ 0 := by
  intro hZero
  simp [check, hZero] at hCheck

end GraphClient

------------------------------------------------------------
-- Main Result
------------------------------------------------------------

namespace GraphClient

/-
  A request that was built, with a schema or without, has a query
  for each graph whose name is an identifier, and no other error
  than that a name is none.  Nor does a graph of a configuration
  that was loaded have another error when it compiles a sample
  of the edges of a node.
-/
theorem Query.compiles_of_built :
    (∀ (clauses : List NodeRequest.Clause) (schema : Schema)
        (request : NodeRequest),
      (NodeRequest.Form.ofClauses clauses).build = .ok request ∨
          NodeRequest.Form.buildWith schema (.ofClauses clauses) =
            .ok request →
        NeedsOnlyName (fun name => request.compile name)) ∧
      (∀ (startNodes : List String)
          (clauses : List NeighborRequest.Clause) (schema : Schema)
          (request : NeighborRequest),
        (NeighborRequest.Form.ofClauses startNodes clauses).build =
              .ok request ∨
            NeighborRequest.Form.buildWith schema
                (.ofClauses startNodes clauses) =
              .ok request →
          NeedsOnlyName (fun name => request.compile name)) ∧
      (∀ (clauses : List EdgeRequest.Clause) (schema : Schema)
          (request : EdgeRequest),
        (EdgeRequest.Form.ofClauses clauses).build = .ok request ∨
            EdgeRequest.Form.buildWith schema (.ofClauses clauses) =
              .ok request →
          NeedsOnlyName (fun name => request.compile name)) ∧
      ∀ (text : String) (config : Config),
        Config.load text = .ok config →
          ∀ (σ : Type) (service : Service σ) (s : σ) (id : String)
            (type : TypeRef) (edgeTypes : List String)
            (e : CompileError),
            (((Graph.ofConfig config).nodeEdges id type
                  edgeTypes).run service s).1 =
                .error (.compile e) ↔
              config.schema.ResolvesNode type ∧
                config.schema.graphName.toList ∉
                  Text.identifierPattern.matches' ∧
                e = .invalidGraphName config.schema.graphName := by
  refine ⟨?_, ?_, ?_, ?_⟩
  · intro clauses schema request hBuild
    exact NodeRequest.Built.needsOnlyName
      ⟨_, hBuild.imp_right (fun hWith => ⟨schema, hWith⟩)⟩
  · intro startNodes clauses schema request hBuild
    exact NeighborRequest.Built.needsOnlyName
      ⟨_, hBuild.imp_right (fun hWith => ⟨schema, hWith⟩)⟩
  · intro clauses schema request hBuild
    exact EdgeRequest.Built.needsOnlyName
      ⟨_, hBuild.imp_right (fun hWith => ⟨schema, hWith⟩)⟩
  · intro text config hLoad σ service s id type edgeTypes e
    have hSamples :=
      Options.edgeSamples_ne_of_check (Config.load_eq_ok_iff.mp hLoad).2
    rw [Graph.nodeEdges_compile_iff]
    constructor
    · rintro ⟨name, hType, hError⟩
      exact ⟨⟨name, hType⟩,
        (needsOnlyName_compileNodeEdges hSamples name id
          edgeTypes).eq_error_iff.mp hError⟩
    · rintro ⟨⟨name, hType⟩, hRefused⟩
      exact ⟨name, hType,
        (needsOnlyName_compileNodeEdges hSamples name id
          edgeTypes).eq_error_iff.mpr hRefused⟩

/-
  Visits are asked for with an empty list and a limit of zero
  that later clauses replace, and so are their neighbors and
  edges; the name of their graph is an identifier.
-/
theorem Query.compiles_of_built_visits :
    (∃ request query,
      NodeRequest.Form.buildWith .visits
          (.ofClauses
            [.restrict (.projection []), .restrict (.limit 0),
              .restrict (.limit 5),
              .restrict (.projection ["started"])]) =
        .ok request ∧
      request.compile "Visits" = .ok query) ∧
      (∃ request query,
        NeighborRequest.Form.buildWith .visits
            (.ofClauses ["v1"]
              [.pattern (.edgeTypes ["reverse_Follows"])]) =
          .ok request ∧
        request.compile "Visits" = .ok query) ∧
      (∃ request,
        (EdgeRequest.Form.ofClauses [.restrict (.limit 1)]).build =
          .ok request ∧
        request.compile "my visits" =
          .error (.invalidGraphName "my visits")) ∧
      ∀ e : CompileError,
        (((Graph.ofConfig .visits).nodeEdges "v1" none []).run
            Store.service .empty).1 ≠
          .error (.compile e) := by
  have hVisits :
      "Visits".toList ∈ Text.identifierPattern.matches' :=
    Text.isIdentifier_iff_matches.mp (by decide)
  have hOther :
      "my visits".toList ∉ Text.identifierPattern.matches' := by
    rw [← Text.isIdentifier_iff_matches]
    decide
  rcases compiles_of_built with
    ⟨hNodes, hNeighbors, hEdges, hSamples⟩
  refine ⟨?_, ?_, ?_, ?_⟩
  · have hBuild := hNodes
      [.restrict (.projection []), .restrict (.limit 0),
        .restrict (.limit 5), .restrict (.projection ["started"])]
      .visits ⟨.type "Visit", "s", none, some ["started"], some 5⟩
      (Or.inr rfl)
    rcases (hBuild "Visits").1.mpr hVisits with ⟨query, hQuery⟩
    exact ⟨_, query, rfl, hQuery⟩
  · have hBuild := hNeighbors ["v1"]
      [.pattern (.edgeTypes ["reverse_Follows"])] .visits
      ⟨["v1"], "Visit",
        ⟨"s", ["reverse_Follows"], "e", [], "t"⟩, .none⟩
      (Or.inr rfl)
    rcases (hBuild "Visits").1.mpr hVisits with ⟨query, hQuery⟩
    exact ⟨_, query, rfl, hQuery⟩
  · have hBuild := hEdges [.restrict (.limit 1)] .visits
      ⟨[], .any, none, none, some 1⟩ (Or.inl rfl)
    exact ⟨_, rfl, (hBuild "my visits").2 hOther⟩
  · intro e hError
    exact ((hSamples Json.visits.pretty .visits Config.load_visits
      Store Store.service .empty "v1" none [] e).mp hError).2.1
        hVisits

end GraphClient
