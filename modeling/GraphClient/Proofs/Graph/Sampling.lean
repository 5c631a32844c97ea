import GraphClient.Proofs.Query.Compiling
import GraphClient.Proofs.Response.Edges
/-
  How many edges a sample has.

  Key theorems include:
    * `GraphClient.Response.size_edgeTable`
    * `GraphClient.Response.length_edgeKeys_le_iff`
    * `GraphClient.Response.edgeKeys_eq_take_iff`
    * `GraphClient.Graph.nodeEdges_bound_iff`

  The rows of a table of edges are cut off at the limit of the
  request.  The edges of a node are asked for with a limit as
  well, but what is answered is given as it is.
-/

------------------------------------------------------------
-- Edges of a Response
------------------------------------------------------------

namespace GraphClient

namespace Response

/- A table has a row for each edge up to its limit. -/
theorem size_edgeTable
    (response : Response)
    (projection? : Option (List String))
    (limit? : Option Nat) :
    (response.edgeTable projection? limit?).size =
      (takeLimit limit? (EdgeRecord.all response)).length := by
  rw [Table.size, rows_edgeTable, List.length_map]

/- There is a key for each edge, so a bound on one bounds both. -/
theorem length_edgeKeys_le_iff
    (schema : Schema)
    (response : Response)
    (n : Nat) :
    (response.edgeKeys schema).length ≤ n ↔
      (EdgeRecord.all response).length ≤ n := by
  rw [edgeKeys, List.length_map]

/- The keys are those of the first edges when there are no more. -/
theorem edgeKeys_eq_take_iff
    (schema : Schema)
    (response : Response)
    (n : Nat) :
    response.edgeKeys schema =
        ((EdgeRecord.all response).take n).map
          (EdgeKey.ofRecord schema) ↔
      (EdgeRecord.all response).length ≤ n := by
  rw [edgeKeys, List.map_take, eq_comm, List.take_eq_self_iff,
    List.length_map]

end Response

end GraphClient

------------------------------------------------------------
-- Main Result
------------------------------------------------------------

namespace GraphClient

namespace Graph

variable {σ : Type}

/- A node that resolves in a graph with a name has a sample. -/
theorem ensures_nodeEdges
    {g : Graph}
    {id : String}
    {type : TypeRef}
    {edgeTypes : List String}
    {name : String}
    {query : Query}
    (hType : g.schema.resolveNode type = .ok name)
    (hQuery :
      compileNodeEdges g.name name id edgeTypes
          g.options.edgeSamples =
        .ok query) :
    (g.nodeEdges id type edgeTypes).Ensures (fun r xs =>
      Asked (.runInterpreted query.script query.parameters)
        (fun o =>
          r = .ok ((Response.ofOutcome o).edgeKeys g.schema)) xs) :=
  Operation.ensures_require_of_ok hType
    (Exact.ensures_nodeEdges ⟨name, id⟩ hQuery)

/- What has a sample is resolved, and has a query. -/
theorem exists_query_of_nodeEdges
    {g : Graph}
    {id : String}
    {type : TypeRef}
    {edgeTypes : List String}
    {service : Service σ}
    {s : σ}
    {keys : List EdgeKey}
    (hKeys :
      ((g.nodeEdges id type edgeTypes).run service s).1 =
        .ok keys) :
    ∃ name query,
      g.schema.resolveNode type = .ok name ∧
        compileNodeEdges g.name name id edgeTypes
            g.options.edgeSamples =
          .ok query := by
  -- otherwise the action is not valid, and ends with an error
  by_contra hNone
  have hInvalid : ¬ (Action.nodeEdges id type edgeTypes).Valid g :=
    hNone
  rcases (Action.refused_of_not_valid hInvalid).run service s with
    ⟨⟨e, hError, _⟩, _⟩
  change Operation.errorOf?
    ((g.nodeEdges id type edgeTypes).run service s).1 = some e
      at hError
  rw [hKeys] at hError
  cases hError

/-
  A node has a sample of its edges when its type resolves and
  the name of the graph is an identifier.  The query is run
  once, and the sample is the edges of its response: all of
  them, so that they are within the bound, and are the first
  ones up to it, exactly when the response has no more.
-/
theorem nodeEdges_bound_iff
    (g : Graph)
    (hSamples : 1 ≤ g.options.edgeSamples)
    (id : String)
    (type : TypeRef)
    (edgeTypes : List String)
    (service : Service σ)
    (s : σ) :
    ((∃ keys,
        ((g.nodeEdges id type edgeTypes).run service s).1 =
          .ok keys) ↔
      g.schema.ResolvesNode type ∧
        g.name.toList ∈ Text.identifierPattern.matches') ∧
      ∀ keys,
        ((g.nodeEdges id type edgeTypes).run service s).1 =
            .ok keys →
          ∃ script parameters o,
            (g.nodeEdges id type edgeTypes).exchanges service s =
                [⟨.runInterpreted script parameters, o⟩] ∧
              keys = (Response.ofOutcome o).edgeKeys g.schema ∧
              (keys.length ≤ g.options.edgeSamples ↔
                (EdgeRecord.all (Response.ofOutcome o)).length ≤
                  g.options.edgeSamples) ∧
              (keys =
                  ((EdgeRecord.all (Response.ofOutcome o)).take
                    g.options.edgeSamples).map
                      (EdgeKey.ofRecord g.schema) ↔
                (EdgeRecord.all (Response.ofOutcome o)).length ≤
                  g.options.edgeSamples) := by
  have hNeeds (name : String) :=
    needsOnlyName_compileNodeEdges
      (Nat.one_le_iff_ne_zero.mp hSamples) name id edgeTypes g.name
  constructor
  · constructor
    · rintro ⟨keys, hKeys⟩
      rcases exists_query_of_nodeEdges hKeys with
        ⟨name, query, hType, hQuery⟩
      exact ⟨⟨name, hType⟩, (hNeeds name).1.mp ⟨query, hQuery⟩⟩
    · rintro ⟨⟨name, hType⟩, hName⟩
      rcases (hNeeds name).1.mpr hName with ⟨query, hQuery⟩
      rcases (ensures_nodeEdges hType hQuery).run service s with
        ⟨o, _, hResult⟩
      exact ⟨_, hResult⟩
  · intro keys hKeys
    rcases exists_query_of_nodeEdges hKeys with
      ⟨name, query, hType, hQuery⟩
    rcases (ensures_nodeEdges hType hQuery).run service s with
      ⟨o, hExchange, hResult⟩
    rw [hKeys, Except.ok.injEq] at hResult
    subst hResult
    exact ⟨query.script, query.parameters, o, hExchange, rfl,
      Response.length_edgeKeys_le_iff _ _ _,
      Response.edgeKeys_eq_take_iff _ _ _⟩

/- The graph of acquaintances, with samples of one edge. -/
def glimpses : Graph :=
  { acquaintance with options := ⟨1, "api_degree", false⟩ }

/- A response with edges from one person to some others. -/
def meetingsWith
    (others : List String) :
    Response :=
  [[("edges", .array (others.map (fun other =>
    .object
      [("from_id", .string "ann"), ("to_id", .string other)])))]]

/-
  A sample of one edge has two, though a table with the same
  limit has one row for the same response.
-/
theorem nodeEdges_glimpses_two :
    glimpses.options.edgeSamples = 1 ∧
      ((glimpses.nodeEdges "ann" none []).run Store.service
          (Store.empty.pushResponse (meetingsWith ["bob", "cy"]))).1 =
        .ok [⟨"ann", "bob", none⟩, ⟨"ann", "cy", none⟩] ∧
      ((meetingsWith ["bob", "cy"]).edgeTable none (some 1)).size =
        1 := by
  refine ⟨rfl, rfl, ?_⟩
  rw [Response.size_edgeTable]
  rfl

/- With one edge in the response the sample is that edge. -/
theorem nodeEdges_bound_iff_glimpses :
    ∃ keys,
      ((glimpses.nodeEdges "ann" none []).run Store.service
          (Store.empty.pushResponse (meetingsWith ["bob"]))).1 =
        .ok keys ∧
      keys.length ≤ 1 := by
  have hBound :=
    nodeEdges_bound_iff glimpses (Nat.le_refl 1) "ann" none []
      Store.service (.pushResponse .empty (meetingsWith ["bob"]))
  have hName : glimpses.name.toList ∈
      Text.identifierPattern.matches' :=
    Text.isIdentifier_iff_matches.mp (by decide)
  rcases hBound.1.mpr ⟨⟨"Person", rfl⟩, hName⟩ with ⟨keys, hKeys⟩
  refine ⟨keys, hKeys, ?_⟩
  rcases hBound.2 keys hKeys with
    ⟨script, parameters, o, hExchange, _, hLength, _⟩
  apply hLength.mpr
  cases hExchange
  exact Nat.le_refl 1

end Graph

end GraphClient
