import GraphClient.Query.Parameter
import GraphClient.Query.Script
import GraphClient.Request.Edge
import GraphClient.Request.Neighbor
import GraphClient.Request.Node
/-
  The queries of requests.

  Key definitions include:
    * `GraphClient.Query`
    * `GraphClient.NodeRequest.compile`
    * `GraphClient.NeighborRequest.compile`
    * `GraphClient.EdgeRequest.compile`
    * `GraphClient.compileNodeEdges`

  A query is a script with the values of its parameters.  The
  name of the graph has to be an identifier.  Start nodes are
  bound to a typed parameter, and edges are collected in an
  accumulator because they cannot be selected themselves.
-/

------------------------------------------------------------
-- Queries
------------------------------------------------------------

namespace GraphClient

/- A script with the values of its parameters. -/
structure Query where
  script : String
  parameters : Parameters
deriving DecidableEq

/- Why a request has no query. -/
inductive CompileError
| invalidGraphName (name : String)
| emptyProjection
| noStartNodes
| invalidLimit
deriving DecidableEq, Repr

/- The message of a cause. -/
def CompileError.message : CompileError → String
| .invalidGraphName name =>
    "Invalid graph name: " ++ "'" ++ name ++ "'"
| .emptyProjection => "Projection list must not be empty"
| .noStartNodes => "Start node set must not be empty"
| .invalidLimit => "Limit must be a positive integer"

namespace Query

/- Check the name of a graph. -/
def checkGraphName
    (name : String) :
    Except CompileError Unit :=
  if Text.isIdentifier name then
    .ok ()
  else
    .error (.invalidGraphName name)

/- Check the attributes that a request wants. -/
def checkProjection
    (projection? : Option (List String)) :
    Except CompileError Unit :=
  if projection? = some [] then
    .error .emptyProjection
  else
    .ok ()

/- Check a limit. -/
def checkLimit
    (limit? : Option Nat) :
    Except CompileError Unit :=
  if limit? = some 0 then
    .error .invalidLimit
  else
    .ok ()

end Query

end GraphClient

------------------------------------------------------------
-- Patterns
------------------------------------------------------------

namespace GraphClient

namespace Query

/- Whether the name of an edge type carries a direction. -/
def isDirected
    (edgeType : String) :
    Bool :=
  edgeType.toList.head? == some '<' ||
    edgeType.toList.getLast? == some '>'

/- Alternatives between parentheses. -/
def choice
    (names : List String) :
    String :=
  "(" ++ Text.join "|" names ++ ")"

/- Edge types: one stands alone unless it carries a direction. -/
def edgeTypesText : List String → String
| [] => ""
| [name] => if isDirected name then choice [name] else name
| names => choice names

/- Node types: one stands alone. -/
def nodeTypesText : List String → String
| [] => ""
| [name] => name
| names => choice names

/- The step over an edge. -/
def edgeStep
    (types : List String)
    (name : String) :
    String :=
  "-(" ++ edgeTypesText types ++ ":" ++ name ++ ")-"

/- The step to a node. -/
def nodeStep
    (types : List String)
    (name : String) :
    String :=
  nodeTypesText types ++ ":" ++ name

/- A pattern that starts from a named set of nodes. -/
def patternText
    (start : String)
    (p : Pattern) :
    String :=
  start ++ ":" ++ p.startAlias ++ " " ++
    edgeStep p.edgeTypes p.edgeAlias ++ " " ++
    nodeStep p.targetTypes p.targetAlias

/- All nodes of the given types; no type stands for any. -/
def seedSource
    (types : List String) :
    String :=
  if types.isEmpty then
    "ANY"
  else
    Text.join ", " (types.map (fun type => type ++ ".*"))

end Query

end GraphClient

------------------------------------------------------------
-- Parts of Scripts
------------------------------------------------------------

namespace GraphClient

namespace Query

/- The name of the set of nodes. -/
def nodes : String :=
  "Nodes"

/- The name of the set of neighbors. -/
def neighbors : String :=
  "Neighbors"

/- The name of the set of sources. -/
def sources : String :=
  "Source"

/- The name of the set of selected nodes that is not printed. -/
def results : String :=
  "Results"

/- The name of the parameter that holds the start nodes. -/
def startNodes : String :=
  "start_nodes"

/- The accumulator that collects edges. -/
def edgeAccumulator : String :=
  "@@edges"

/- The declaration of the accumulator. -/
def accumulatorDeclaration : String :=
  "ListAccum<EDGE> " ++ edgeAccumulator ++ ";"

/- The clause that collects the edges of an alias. -/
def collectEdges
    (name : String) :
    String :=
  edgeAccumulator ++ " += " ++ name

/- The declaration of the start nodes. -/
def startDeclaration
    (type : String) :
    String :=
  "SET<VERTEX<" ++ type ++ ">> " ++ startNodes

/- The values of the start nodes. -/
def startParameters
    (type : String)
    (ids : List String) :
    Parameters :=
  OrderedMap.empty.insert startNodes (.nodesOf type ids)

end Query

end GraphClient

------------------------------------------------------------
-- Requests for Nodes
------------------------------------------------------------

namespace GraphClient

namespace NodeRequest

/- The nodes that a request starts from. -/
def source
    (request : NodeRequest) :
    String :=
  match request.target with
  | .type name => Query.seedSource [name]
  | .all => Query.seedSource []

/- The selection of a request that filters or limits. -/
def selection?
    (request : NodeRequest) :
    Option Script.Selection :=
  let r := request.restriction
  if r.filter?.isSome || r.limit?.isSome then
    some
      { name := Query.nodes
        selected := request.nodeAlias
        pattern := Query.nodes ++ ":" ++ request.nodeAlias
        filter? := r.filter?
        collect? := none
        limit? := r.limit? }
  else
    none

/- The script of a request. -/
def script
    (graphName : String)
    (request : NodeRequest) :
    Script where
  graphName := graphName
  parameters := []
  declarations := []
  seed := ⟨Query.nodes, request.source⟩
  selection? := request.selection?
  output := .nodes Query.nodes request.restriction.projection?

/- The query of a request. -/
def compile
    (graphName : String)
    (request : NodeRequest) :
    Except CompileError Query := do
  Query.checkGraphName graphName
  Query.checkProjection request.restriction.projection?
  Query.checkLimit request.restriction.limit?
  return ⟨(request.script graphName).text, .empty⟩

end NodeRequest

end GraphClient

------------------------------------------------------------
-- Requests for Neighbors
------------------------------------------------------------

namespace GraphClient

namespace NeighborRequest

/- The script of a request. -/
def script
    (graphName : String)
    (request : NeighborRequest) :
    Script where
  graphName := graphName
  parameters := [Query.startDeclaration request.startType]
  declarations := []
  seed := ⟨Query.nodes, Query.startNodes⟩
  selection? := some
    { name := Query.neighbors
      selected := request.pattern.targetAlias
      pattern := Query.patternText Query.nodes request.pattern
      filter? := request.restriction.filter?
      collect? := none
      limit? := request.restriction.limit? }
  output := .nodes Query.neighbors request.restriction.projection?

/- The query of a request. -/
def compile
    (graphName : String)
    (request : NeighborRequest) :
    Except CompileError Query := do
  Query.checkGraphName graphName
  if request.startNodes.isEmpty then
    throw .noStartNodes
  Query.checkProjection request.restriction.projection?
  Query.checkLimit request.restriction.limit?
  return ⟨(request.script graphName).text,
    Query.startParameters request.startType request.startNodes⟩

end NeighborRequest

end GraphClient

------------------------------------------------------------
-- Requests for Edges
------------------------------------------------------------

namespace GraphClient

namespace EdgeRequest

/- The script of a request. -/
def script
    (graphName : String)
    (request : EdgeRequest) :
    Script where
  graphName := graphName
  parameters := []
  declarations := [Query.accumulatorDeclaration]
  seed := ⟨Query.sources, Query.seedSource request.sourceTypes⟩
  selection? := some
    { name := Query.results
      selected := request.pattern.startAlias
      pattern := Query.patternText Query.sources request.pattern
      filter? := request.restriction.filter?
      collect? := some (Query.collectEdges request.pattern.edgeAlias)
      limit? := request.restriction.limit? }
  output := .collected Query.edgeAccumulator "Edges"

/- The query of a request. -/
def compile
    (graphName : String)
    (request : EdgeRequest) :
    Except CompileError Query := do
  Query.checkGraphName graphName
  Query.checkProjection request.restriction.projection?
  Query.checkLimit request.restriction.limit?
  return ⟨(request.script graphName).text, .empty⟩

end EdgeRequest

end GraphClient

------------------------------------------------------------
-- Edges of a Node
------------------------------------------------------------

namespace GraphClient

namespace Query

/- The script that samples the edges of a node. -/
def nodeEdgesScript
    (graphName nodeType : String)
    (edgeTypes : List String)
    (samples : Nat) :
    Script where
  graphName := graphName
  parameters := [startDeclaration nodeType]
  declarations := [accumulatorDeclaration]
  seed := ⟨nodes, startNodes⟩
  selection? := some
    { name := results
      selected := Alias.start
      pattern :=
        patternText nodes { Pattern.any with edgeTypes := edgeTypes }
      filter? := none
      collect? := some (collectEdges Alias.edge)
      limit? := some samples }
  output := .collected edgeAccumulator "edges"

end Query

/- The query that samples the edges of a node. -/
def compileNodeEdges
    (graphName nodeType nodeId : String)
    (edgeTypes : List String)
    (samples : Nat) :
    Except CompileError Query := do
  Query.checkGraphName graphName
  Query.checkLimit (some samples)
  return ⟨(Query.nodeEdgesScript graphName nodeType edgeTypes samples).text,
    Query.startParameters nodeType [nodeId]⟩

end GraphClient
