import GraphClient.Proofs.Query.Patterns
import GraphClient.Proofs.Query.Script
import GraphClient.Proofs.Request.Built
/-
  Reading requests out of their queries.

  Key definitions include:
    * `GraphClient.NodeRequest.Legible`
    * `GraphClient.NeighborRequest.Legible`
    * `GraphClient.EdgeRequest.Legible`

  Key theorems include:
    * `GraphClient.NodeRequest.compile_eq_ok_iff`
    * `GraphClient.NeighborRequest.compile_eq_ok_iff`
    * `GraphClient.EdgeRequest.compile_eq_ok_iff`
    * `GraphClient.Query.compile_inj`

  Different requests have different queries, as far as a query
  says anything of them.  A query does not say which alias
  nodes have that are not selected from, nor which attributes
  of edges are wanted, because edges are printed whole.
-/

------------------------------------------------------------
-- Legible Requests
------------------------------------------------------------

namespace GraphClient

open Text (Lacks)

/- A filter on one line, and attributes that are identifiers. -/
structure Restriction.Legible (r : Restriction) : Prop where
  filter : ∀ condition ∈ r.filter?, Lacks '\n' condition
  projection :
    ∀ names ∈ r.projection?, ∀ name ∈ names,
      Text.isIdentifier name = true

/- Restrictions with the same parts are the same. -/
theorem Restriction.ext
    {r s : Restriction}
    (hFilter : r.filter? = s.filter?)
    (hProjection : r.projection? = s.projection?)
    (hLimit : r.limit? = s.limit?) :
    r = s := by
  cases r
  cases s
  rw [mk.injEq]
  exact ⟨hFilter, hProjection, hLimit⟩

/- A request for nodes of a type that is an identifier. -/
structure NodeRequest.Legible (request : NodeRequest) : Prop where
  target :
    ∀ name, request.target = .type name →
      Text.isIdentifier name = true
  restriction : request.restriction.Legible

/- A request for neighbors whose types are names. -/
structure NeighborRequest.Legible
    (request : NeighborRequest) :
    Prop where
  startType : Text.isIdentifier request.startType = true
  pattern : request.pattern.Legible
  restriction : request.restriction.Legible

/- A request for edges whose types are names. -/
structure EdgeRequest.Legible (request : EdgeRequest) : Prop where
  sourceTypes :
    ∀ name ∈ request.sourceTypes, Text.isIdentifier name = true
  pattern : request.pattern.Legible
  filter :
    ∀ condition ∈ request.restriction.filter?, Lacks '\n' condition

end GraphClient

------------------------------------------------------------
-- Compilation
------------------------------------------------------------

namespace GraphClient

namespace Query

/- The name of a graph passes when it is an identifier. -/
theorem checkGraphName_eq_ok_iff
    {name : String} :
    checkGraphName name = .ok () ↔
      Text.isIdentifier name = true := by
  unfold checkGraphName
  cases Text.isIdentifier name <;> simp

/- Attributes pass unless they are listed and there is none. -/
theorem checkProjection_eq_ok_iff
    {projection? : Option (List String)} :
    checkProjection projection? = .ok () ↔
      projection? ≠ some [] := by
  unfold checkProjection
  by_cases hEmpty : projection? = some [] <;> simp [hEmpty]

/- A limit passes unless it is zero. -/
theorem checkLimit_eq_ok_iff
    {limit? : Option Nat} :
    checkLimit limit? = .ok () ↔ limit? ≠ some 0 := by
  unfold checkLimit
  by_cases hZero : limit? = some 0 <;> simp [hZero]

end Query

/- A request for nodes has a query when its parts pass. -/
theorem NodeRequest.compile_eq_ok_iff
    {graphName : String}
    {request : NodeRequest}
    {query : Query} :
    request.compile graphName = .ok query ↔
      Text.isIdentifier graphName = true ∧
        request.restriction.projection? ≠ some [] ∧
        request.restriction.limit? ≠ some 0 ∧
        query = ⟨(request.script graphName).text, .empty⟩ := by
  unfold compile
  rw [Checks.next_eq_ok_iff, Checks.next_eq_ok_iff,
    Checks.next_eq_ok_iff, Query.checkGraphName_eq_ok_iff,
    Query.checkProjection_eq_ok_iff, Query.checkLimit_eq_ok_iff,
    Checks.pure_eq_ok_iff]

/- A request for neighbors has a query when its parts pass. -/
theorem NeighborRequest.compile_eq_ok_iff
    {graphName : String}
    {request : NeighborRequest}
    {query : Query} :
    request.compile graphName = .ok query ↔
      Text.isIdentifier graphName = true ∧
        request.startNodes ≠ [] ∧
        request.restriction.projection? ≠ some [] ∧
        request.restriction.limit? ≠ some 0 ∧
        query = ⟨(request.script graphName).text,
          Query.startParameters request.startType
            request.startNodes⟩ := by
  unfold compile
  rw [Checks.next_eq_ok_iff, Query.checkGraphName_eq_ok_iff]
  cases request.startNodes with
  | nil => simp
  | cons id ids =>
      simp only [List.isEmpty_cons, Bool.false_eq_true, if_false]
      rw [Checks.next_eq_ok_iff, Checks.next_eq_ok_iff,
        Query.checkProjection_eq_ok_iff,
        Query.checkLimit_eq_ok_iff, Checks.pure_eq_ok_iff]
      simp

/- A request for edges has a query when its parts pass. -/
theorem EdgeRequest.compile_eq_ok_iff
    {graphName : String}
    {request : EdgeRequest}
    {query : Query} :
    request.compile graphName = .ok query ↔
      Text.isIdentifier graphName = true ∧
        request.restriction.projection? ≠ some [] ∧
        request.restriction.limit? ≠ some 0 ∧
        query = ⟨(request.script graphName).text, .empty⟩ := by
  unfold compile
  rw [Checks.next_eq_ok_iff, Checks.next_eq_ok_iff,
    Checks.next_eq_ok_iff, Query.checkGraphName_eq_ok_iff,
    Query.checkProjection_eq_ok_iff, Query.checkLimit_eq_ok_iff,
    Checks.pure_eq_ok_iff]

end GraphClient

------------------------------------------------------------
-- Requests for Nodes
------------------------------------------------------------

namespace GraphClient

open Text (Lacks)

/- What prints nodes does not start like a selection of nodes. -/
theorem Script.Output.nodes_lines_ne
    {projection? : Option (List String)}
    {s : Script.Selection}
    {rest : List String}
    (hName : s.name = Query.nodes) :
    (Output.nodes Query.nodes projection?).lines ≠
      s.lines ++ rest := by
  intro hEq
  have hHead := congrArg List.head? hEq
  cases projection? with
  | none =>
      simp +decide [lines, Selection.lines, hName, inner] at hHead
  | some names =>
      simp +decide [lines, Selection.lines, hName, inner] at hHead

namespace NodeRequest

/- A request that selects says so with its filter or its limit. -/
theorem selection?_cases
    (request : NodeRequest) :
    (request.restriction.filter? = none ∧
        request.restriction.limit? = none ∧
        request.selection? = none) ∨
      request.selection? = some
        { name := Query.nodes
          selected := request.nodeAlias
          pattern := Query.nodes ++ ":" ++ request.nodeAlias
          filter? := request.restriction.filter?
          collect? := none
          limit? := request.restriction.limit? } := by
  cases hFilter : request.restriction.filter? with
  | some condition =>
      right
      simp [selection?, hFilter]
  | none =>
      cases hLimit : request.restriction.limit? with
      | some n =>
          right
          simp [selection?, hFilter, hLimit]
      | none =>
          left
          simp [selection?, hFilter, hLimit]

/- The seed of a request for nodes of a type is a name. -/
theorem lacks_source
    {request : NodeRequest}
    (hLegible : request.Legible) :
    Lacks '\n' request.source := by
  unfold source
  cases hTarget : request.target with
  | all =>
      exact Query.lacks_seedSource (by decide) (by decide) (by simp)
  | type name =>
      exact Query.lacks_seedSource (by decide) (by decide)
        (by simpa using hLegible.target name hTarget)

/- The target of a request can be told from its seed. -/
theorem target_inj
    {request other : NodeRequest}
    (hRequest : request.Legible)
    (hOther : other.Legible)
    (hEq : request.source = other.source) :
    request.target = other.target := by
  have hTypes :
      ∀ request : NodeRequest, request.Legible →
        ∀ name ∈ request.target.type?.toList,
          Text.isIdentifier name = true := by
    intro request hLegible name hMem
    cases hTarget : request.target with
    | all => simp [hTarget, NodeTarget.type?] at hMem
    | type given =>
        have hName : name = given := by
          simpa [hTarget, NodeTarget.type?] using hMem
        rw [hName]
        exact hLegible.target given hTarget
  have hSource :
      ∀ request : NodeRequest,
        request.source =
          Query.seedSource request.target.type?.toList := by
    intro request
    unfold source
    cases request.target <;> rfl
  have hTarget :
      ∀ t u : NodeTarget, t.type?.toList = u.type?.toList → t = u := by
    intro t u hList
    cases t <;> cases u <;>
      simp [NodeTarget.type?] at hList ⊢
    exact hList
  rw [hSource, hSource] at hEq
  exact hTarget _ _
    (Query.seedSource_inj (hTypes request hRequest)
      (hTypes other hOther) hEq)

/- The script of a legible request has no further line breaks. -/
theorem unbroken_script
    {graphName : String}
    (hGraph : Text.isIdentifier graphName = true)
    {request : NodeRequest}
    (hBuilt : request.Built)
    (hLegible : request.Legible) :
    (request.script graphName).Unbroken where
  graphName := Text.lacks_of_isIdentifier (by decide) hGraph
  parameters := by simp [script]
  declarations := by simp [script]
  seedName := (by decide : Lacks '\n' Query.nodes)
  seedSource := lacks_source hLegible
  selection := by
    intro s hSome
    have hAlias : Lacks '\n' request.nodeAlias :=
      Text.lacks_of_isIdentifier (by decide)
        (Alias.check_eq_ok_iff.mp hBuilt.check_alias).1
    rcases request.selection?_cases with
      ⟨_, _, hNone⟩ | hSelection
    · rw [show request.selection? = some s from hSome] at hNone
      cases hNone
    · rw [show request.selection? = some s from hSome,
        Option.some.injEq] at hSelection
      rw [hSelection]
      exact
        { name := (by decide : Lacks '\n' Query.nodes)
          selected := hAlias
          pattern := by simp +decide [hAlias]
          filter := hLegible.restriction.filter
          collect := by simp }
  output := by
    refine ⟨by decide, ?_⟩
    intro names hNames name hMem
    exact Text.lacks_of_isIdentifier (by decide)
      (hLegible.restriction.projection names hNames name hMem)

/-
  Requests for nodes with the same query ask the same of the
  same graph.  The alias is known when something is selected.
-/
theorem compile_agree
    {graphName otherName : String}
    {request other : NodeRequest}
    (hBuilt : request.Built)
    (hOtherBuilt : other.Built)
    (hLegible : request.Legible)
    (hOtherLegible : other.Legible)
    {query : Query}
    (hCompile : request.compile graphName = .ok query)
    (hOther : other.compile otherName = .ok query) :
    graphName = otherName ∧ request.target = other.target ∧
      request.restriction = other.restriction ∧
      (request.restriction.filter?.isSome = true ∨
          request.restriction.limit?.isSome = true →
        request.nodeAlias = other.nodeAlias) := by
  rcases compile_eq_ok_iff.mp hCompile with ⟨hGraph, _, _, rfl⟩
  rcases compile_eq_ok_iff.mp hOther with ⟨hOtherGraph, _, _, hQuery⟩
  rw [Query.mk.injEq] at hQuery
  have hLines :=
    Script.lines_of_text
      (unbroken_script hGraph hBuilt hLegible)
      (unbroken_script hOtherGraph hOtherBuilt hOtherLegible)
      hQuery.1
  simp only [Script.lines, script, Script.headLines, List.map_nil,
    List.append_nil, List.cons_append, List.nil_append,
    List.cons.injEq, String.append_left_inj,
    String.append_right_inj, Script.Seed.line, Script.inner]
    at hLines
  rcases hLines with ⟨hSameGraph, hSource, hRest⟩
  have hTarget := target_inj hLegible hOtherLegible hSource
  have hOutput :
      (Script.Output.nodes Query.nodes
            request.restriction.projection?).lines =
          (Script.Output.nodes Query.nodes
            other.restriction.projection?).lines →
        request.restriction.projection? =
          other.restriction.projection? :=
    Script.Output.nodes_lines_inj (by decide)
      hLegible.restriction.projection
      hOtherLegible.restriction.projection
  refine ⟨hSameGraph, hTarget, ?_⟩
  rcases request.selection?_cases with
    ⟨hFilter, hLimit, hNone⟩ | hSelects
  · rcases other.selection?_cases with
      ⟨hFilter', hLimit', hNone'⟩ | hSelects'
    · rw [hNone, hNone'] at hRest
      refine ⟨Restriction.ext (hFilter.trans hFilter'.symm)
        (hOutput hRest) (hLimit.trans hLimit'.symm), ?_⟩
      simp [hFilter, hLimit]
    · rw [hNone, hSelects'] at hRest
      exact (Script.Output.nodes_lines_ne rfl hRest).elim
  · rcases other.selection?_cases with
      ⟨_, _, hNone'⟩ | hSelects'
    · rw [hSelects, hNone'] at hRest
      exact (Script.Output.nodes_lines_ne rfl hRest.symm).elim
    · rw [hSelects, hSelects'] at hRest
      rcases Script.Selection.lines_inj hRest with ⟨hSame, hPrint⟩
      rw [Script.Selection.mk.injEq] at hSame
      rcases hSame with ⟨_, hAlias, _, hFilter, _, hLimit⟩
      exact ⟨Restriction.ext hFilter (hOutput hPrint) hLimit,
        fun _ => hAlias⟩

end NodeRequest

end GraphClient

------------------------------------------------------------
-- Requests for Neighbors
------------------------------------------------------------

namespace GraphClient

open Text (Lacks)

namespace NeighborRequest

/- The script of a legible request has no further line breaks. -/
theorem unbroken_script
    {graphName : String}
    (hGraph : Text.isIdentifier graphName = true)
    {request : NeighborRequest}
    (hBuilt : request.Built)
    (hLegible : request.Legible) :
    (request.script graphName).Unbroken where
  graphName := Text.lacks_of_isIdentifier (by decide) hGraph
  parameters := by
    have hType : Lacks '\n' request.startType :=
      Text.lacks_of_isIdentifier (by decide) hLegible.startType
    simp +decide [script, Query.startDeclaration, hType]
  declarations := by simp [script]
  seedName := (by decide : Lacks '\n' Query.nodes)
  seedSource := (by decide : Lacks '\n' Query.startNodes)
  selection := by
    intro s hSome
    have hAliases :=
      Pattern.isIdentifier_of_check hBuilt.check_pattern
    have hTarget : Lacks '\n' request.pattern.targetAlias :=
      Text.lacks_of_isIdentifier (by decide)
        (hAliases _ (by simp [Pattern.aliases]))
    simp only [script, Option.mem_def, Option.some.injEq] at hSome
    rw [← hSome]
    exact
      { name := (by decide : Lacks '\n' Query.neighbors)
        selected := hTarget
        pattern :=
          Query.lacks_patternText (by decide) hAliases
            hLegible.pattern
        filter := hLegible.restriction.filter
        collect := by simp }
  output := by
    refine ⟨by decide, ?_⟩
    intro names hNames name hMem
    exact Text.lacks_of_isIdentifier (by decide)
      (hLegible.restriction.projection names hNames name hMem)

/- Start nodes can be told from the parameters for them. -/
theorem startNodes_inj
    {type otherType : String}
    {ids others : List String}
    (hEq :
      Query.startParameters type ids =
        Query.startParameters otherType others) :
    ids = others := by
  have hGet :=
    congrArg (fun m : Parameters => m.get? Query.startNodes) hEq
  simp only [Query.startParameters, OrderedMap.get?_insert,
    if_true, Parameter.nodesOf, Option.some.injEq,
    Parameter.nodes.injEq] at hGet
  have hIds := congrArg (List.map NodeRef.id) hGet
  simpa [List.map_map, Function.comp_def] using hIds

/-
  Requests for neighbors with the same query are the same
  request for the same graph.
-/
theorem compile_agree
    {graphName otherName : String}
    {request other : NeighborRequest}
    (hBuilt : request.Built)
    (hOtherBuilt : other.Built)
    (hLegible : request.Legible)
    (hOtherLegible : other.Legible)
    {query : Query}
    (hCompile : request.compile graphName = .ok query)
    (hOther : other.compile otherName = .ok query) :
    graphName = otherName ∧ request = other := by
  rcases compile_eq_ok_iff.mp hCompile with
    ⟨hGraph, _, _, _, rfl⟩
  rcases compile_eq_ok_iff.mp hOther with
    ⟨hOtherGraph, _, _, _, hQuery⟩
  rw [Query.mk.injEq] at hQuery
  have hLines :=
    Script.lines_of_text
      (unbroken_script hGraph hBuilt hLegible)
      (unbroken_script hOtherGraph hOtherBuilt hOtherLegible)
      hQuery.1
  simp only [Script.lines, script, Script.headLines,
    Script.commaLines, List.map_cons, List.map_nil,
    List.append_nil, List.cons_append, List.nil_append,
    List.cons.injEq, String.append_left_inj,
    String.append_right_inj, Script.inner,
    Query.startDeclaration, true_and] at hLines
  rcases hLines with ⟨hType, hSameGraph, hRest⟩
  rcases Script.Selection.lines_inj hRest with ⟨hSame, hPrint⟩
  rw [Script.Selection.mk.injEq] at hSame
  rcases hSame with ⟨_, _, hPattern, hFilter, _, hLimit⟩
  have hSamePattern :=
    Query.patternText_inj
      (Pattern.isIdentifier_of_check hBuilt.check_pattern)
      (Pattern.isIdentifier_of_check hOtherBuilt.check_pattern)
      hLegible.pattern hOtherLegible.pattern hPattern
  have hProjection :=
    Script.Output.nodes_lines_inj (by decide)
      hLegible.restriction.projection
      hOtherLegible.restriction.projection hPrint
  have hRestriction :=
    Restriction.ext hFilter hProjection hLimit
  have hIds := startNodes_inj hQuery.2
  refine ⟨hSameGraph, ?_⟩
  rcases request with ⟨startNodes, startType, pattern, restriction⟩
  rw [mk.injEq]
  exact ⟨hIds, hType, hSamePattern, hRestriction⟩

end NeighborRequest

end GraphClient

------------------------------------------------------------
-- Requests for Edges
------------------------------------------------------------

namespace GraphClient

open Text (Lacks)

namespace EdgeRequest

/- The script of a legible request has no further line breaks. -/
theorem unbroken_script
    {graphName : String}
    (hGraph : Text.isIdentifier graphName = true)
    {request : EdgeRequest}
    (hBuilt : request.Built)
    (hLegible : request.Legible) :
    (request.script graphName).Unbroken where
  graphName := Text.lacks_of_isIdentifier (by decide) hGraph
  parameters := by simp [script]
  declarations := by
    have hDeclaration : Lacks '\n' Query.accumulatorDeclaration := by
      decide
    simpa [script] using hDeclaration
  seedName := (by decide : Lacks '\n' Query.sources)
  seedSource :=
    Query.lacks_seedSource (by decide) (by decide)
      hLegible.sourceTypes
  selection := by
    intro s hSome
    have hAliases :=
      Pattern.isIdentifier_of_check hBuilt.check_pattern
    have hAlias :
        ∀ name ∈ request.pattern.aliases, Lacks '\n' name :=
      fun name hMem =>
        Text.lacks_of_isIdentifier (by decide) (hAliases name hMem)
    simp only [script, Option.mem_def, Option.some.injEq] at hSome
    rw [← hSome]
    exact
      { name := (by decide : Lacks '\n' Query.results)
        selected := hAlias _ (by simp [Pattern.aliases])
        pattern :=
          Query.lacks_patternText (by decide) hAliases
            hLegible.pattern
        filter := hLegible.filter
        collect := by
          have hEdge :=
            hAlias request.pattern.edgeAlias
              (by simp [Pattern.aliases])
          simp +decide [Query.collectEdges, hEdge] }
  output :=
    (by decide :
      Lacks '\n' Query.edgeAccumulator ∧ Lacks '\n' "Edges")

/-
  Requests for edges with the same query ask the same of the
  same graph, up to the attributes that they want.
-/
theorem compile_agree
    {graphName otherName : String}
    {request other : EdgeRequest}
    (hBuilt : request.Built)
    (hOtherBuilt : other.Built)
    (hLegible : request.Legible)
    (hOtherLegible : other.Legible)
    {query : Query}
    (hCompile : request.compile graphName = .ok query)
    (hOther : other.compile otherName = .ok query) :
    graphName = otherName ∧
      request.sourceTypes = other.sourceTypes ∧
      request.pattern = other.pattern ∧
      request.restriction.filter? = other.restriction.filter? ∧
      request.restriction.limit? = other.restriction.limit? := by
  rcases compile_eq_ok_iff.mp hCompile with ⟨hGraph, _, _, rfl⟩
  rcases compile_eq_ok_iff.mp hOther with ⟨hOtherGraph, _, _, hQuery⟩
  rw [Query.mk.injEq] at hQuery
  have hLines :=
    Script.lines_of_text
      (unbroken_script hGraph hBuilt hLegible)
      (unbroken_script hOtherGraph hOtherBuilt hOtherLegible)
      hQuery.1
  simp only [Script.lines, script, Script.headLines, List.map_cons,
    List.map_nil, List.cons_append, List.nil_append,
    List.cons.injEq, String.append_left_inj,
    String.append_right_inj, Script.Seed.line, Script.inner,
    true_and] at hLines
  rcases hLines with ⟨hSameGraph, hSource, hRest⟩
  rcases Script.Selection.lines_inj hRest with ⟨hSame, _⟩
  rw [Script.Selection.mk.injEq] at hSame
  rcases hSame with ⟨_, _, hPattern, hFilter, _, hLimit⟩
  have hSources :=
    Query.seedSource_inj hLegible.sourceTypes
      hOtherLegible.sourceTypes hSource
  have hSamePattern :=
    Query.patternText_inj
      (Pattern.isIdentifier_of_check hBuilt.check_pattern)
      (Pattern.isIdentifier_of_check hOtherBuilt.check_pattern)
      hLegible.pattern hOtherLegible.pattern hPattern
  exact ⟨hSameGraph, hSources, hSamePattern, hFilter, hLimit⟩

end EdgeRequest

end GraphClient

------------------------------------------------------------
-- All Requests
------------------------------------------------------------

namespace GraphClient

namespace Query

/-
  Different requests have different queries: built and legible
  requests of one kind with the same query are for the same
  graph, and agree on all that a query says.
-/
theorem compile_inj
    (graphName otherName : String)
    (query : Query) :
    (∀ request other : NodeRequest,
        request.Built → other.Built →
        request.Legible → other.Legible →
        request.compile graphName = .ok query →
        other.compile otherName = .ok query →
        graphName = otherName ∧ request.target = other.target ∧
          request.restriction = other.restriction ∧
          (request.restriction.filter?.isSome = true ∨
              request.restriction.limit?.isSome = true →
            request.nodeAlias = other.nodeAlias)) ∧
      (∀ request other : NeighborRequest,
        request.Built → other.Built →
        request.Legible → other.Legible →
        request.compile graphName = .ok query →
        other.compile otherName = .ok query →
        graphName = otherName ∧ request = other) ∧
      ∀ request other : EdgeRequest,
        request.Built → other.Built →
        request.Legible → other.Legible →
        request.compile graphName = .ok query →
        other.compile otherName = .ok query →
        graphName = otherName ∧
          request.sourceTypes = other.sourceTypes ∧
          request.pattern = other.pattern ∧
          request.restriction.filter? = other.restriction.filter? ∧
          request.restriction.limit? = other.restriction.limit? := by
  refine ⟨?_, ?_, ?_⟩
  · intro request other hBuilt hOtherBuilt hLegible hOtherLegible
    exact NodeRequest.compile_agree hBuilt hOtherBuilt hLegible
      hOtherLegible
  · intro request other hBuilt hOtherBuilt hLegible hOtherLegible
    exact NeighborRequest.compile_agree hBuilt hOtherBuilt hLegible
      hOtherLegible
  · intro request other hBuilt hOtherBuilt hLegible hOtherLegible
    exact EdgeRequest.compile_agree hBuilt hOtherBuilt hLegible
      hOtherLegible

/- All persons, under some alias. -/
def persons
    (name : String) :
    NodeRequest :=
  ⟨.type "Person", name, ⟨none, some ["id", "age"], none⟩⟩

/- The persons that someone knows or is known by. -/
def friends : NeighborRequest :=
  ⟨["ann", "bob"], "Person",
    ⟨"s", ["<Knows", "Knows"], "e", ["Person"], "t"⟩,
    ⟨some "t.age > 7", some ["id"], some 5⟩⟩

/- The acquaintances of persons, with their years or whole. -/
def meetings
    (projection? : Option (List String)) :
    EdgeRequest :=
  ⟨["Person"], ⟨"s", ["Knows"], "e", [], "t"⟩,
    ⟨some "e.since > 2000", projection?, some 5⟩⟩

/-
  Requests for persons under two aliases, for friends, and for
  meetings with some or all attributes, and what is the same.
-/
theorem compile_inj_persons :
    (persons "s").restriction = (persons "v").restriction ∧
      friends.startNodes = ["ann", "bob"] ∧
      (meetings none).pattern =
        (meetings (some ["since"])).pattern := by
  have hPersons : ∀ name ∈ ["s", "v"], (persons name).Built := by
    intro name hName
    refine ⟨⟨some "Person", false, name,
      (persons name).restriction⟩, Or.inl ?_⟩
    rcases List.mem_pair.mp hName with rfl | rfl <;> rfl
  have hPersonsLegible : ∀ name, (persons name).Legible := by
    intro name
    refine ⟨?_, ⟨by simp [persons], by simp +decide [persons]⟩⟩
    rintro type ⟨⟩
    decide
  have hFriends : friends.Built :=
    ⟨⟨["ann", "bob"], some "Person", friends.pattern,
      friends.restriction⟩, Or.inl rfl⟩
  have hFriendsLegible : friends.Legible := by
    refine ⟨by decide, ⟨?_, by decide⟩, ⟨by decide, by decide⟩⟩
    have hKnows : Text.isIdentifier "Knows" = true := by decide
    intro name hName
    rcases List.mem_pair.mp hName with rfl | rfl
    · exact ⟨"Knows", hKnows, Or.inr (Or.inl rfl)⟩
    · exact ⟨"Knows", hKnows, Or.inl rfl⟩
  have hMeetings :
      ∀ p ∈ [none, some ["since"]], (meetings p).Built := by
    intro p hP
    refine ⟨⟨["Person"], (meetings p).pattern,
      (meetings p).restriction⟩, Or.inl ?_⟩
    rcases List.mem_pair.mp hP with rfl | rfl <;> rfl
  have hMeetingsLegible : ∀ p, (meetings p).Legible := by
    intro p
    have hKnows : Text.isIdentifier "Knows" = true := by decide
    refine ⟨by simp +decide [meetings],
      ⟨?_, by simp [meetings]⟩, by simp +decide [meetings]⟩
    intro name hName
    rw [List.mem_singleton.mp hName]
    exact .of_isIdentifier hKnows
  have hNodes :=
    (compile_inj "Social" "Social" _).1 (persons "s") (persons "v")
      (hPersons "s" (by simp)) (hPersons "v" (by simp))
      (hPersonsLegible "s") (hPersonsLegible "v") rfl rfl
  have hNeighbors :=
    (compile_inj "Social" "Social" _).2.1 friends friends
      hFriends hFriends hFriendsLegible hFriendsLegible rfl rfl
  have hEdges :=
    (compile_inj "Social" "Social" _).2.2 (meetings none)
      (meetings (some ["since"]))
      (hMeetings none (by simp)) (hMeetings _ (by simp))
      (hMeetingsLegible none) (hMeetingsLegible _) rfl rfl
  exact ⟨hNodes.2.2.1,
    congrArg NeighborRequest.startNodes hNeighbors.2,
    hEdges.2.2.1⟩

end Query

end GraphClient
